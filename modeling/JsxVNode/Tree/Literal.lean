import JsxVNode.Source.Span

/-!
# Identifiers and literals

The leaves of a program tree. An identifier is its name together with the number
of the scope that binds it; two identifiers with one name in different scopes are
different identifiers. A literal keeps the text it was written with, so that a
literal nobody touched is printed as it was.
-/

namespace JsxVNode

/-- What an identifier refers to: a name and the scope that binds it. -/
structure Id where
  name : String
  scope : Nat
  deriving DecidableEq, Repr, Inhabited

/-- An identifier in a program text. -/
structure Ident where
  span : Span
  name : String
  /-- The scope number; zero is the scope of generated identifiers. -/
  scope : Nat
  /-- A type annotation's question mark follows the name. -/
  optional : Bool
  deriving DecidableEq, Repr, Inhabited

namespace Ident

/-- The identity of an identifier, which ignores where it stands. -/
def id (i : Ident) : Id := ⟨i.name, i.scope⟩

/-- A generated identifier. -/
def generated (name : String) : Ident := ⟨.dummy, name, 0, false⟩

@[simp] theorem name_generated (name : String) : (generated name).name = name := rfl

@[simp] theorem id_generated (name : String) : (generated name).id = ⟨name, 0⟩ := rfl

end Ident

/-- The value of a numeric literal: a small whole number, or the shortest decimal
digits, without an exponent, that read back as the same number. -/
inductive Numeric where
  | whole (value : Int)
  | decimal (digits : String)
  deriving DecidableEq, Repr, Inhabited

/-- The text of a number when it serves as a property name. -/
def Numeric.text : Numeric → String
  | .whole value => toString value
  | .decimal digits => digits

/-- What a literal denotes. -/
inductive LiteralValue where
  | str (value : String)
  | bool (value : Bool)
  | null
  | num (value : Numeric)
  /-- A whole number of any size: its sign and its digits to the base `2 ^ 32`. -/
  | bigint (sign : Int) (digits : List Nat)
  | regex (pattern flags : String)
  /-- Markup text that stands where an expression is expected. -/
  | jsxText (value : String)
  deriving DecidableEq, Repr, Inhabited

/-- A literal with its place and, when it was read from a source, its spelling. -/
structure Literal where
  span : Span
  raw : Option String
  value : LiteralValue
  deriving DecidableEq, Repr, Inhabited

namespace Literal

/-- A literal without a source text. -/
def generated (value : LiteralValue) : Literal := ⟨.dummy, none, value⟩

/-- The string a string literal denotes. -/
def string? (l : Literal) : Option String :=
  match l.value with
  | .str value => some value
  | _ => none

end Literal

end JsxVNode
