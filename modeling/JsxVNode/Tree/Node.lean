import JsxVNode.Tree.Form
import JsxVNode.Tree.Literal

/-!
# Program trees

A program is a tree of nodes. The productions that the compiler builds or takes
apart are constructors; every other production is a labelled `form` whose parts
stand in visiting order. Markup is a type of its own, so whether a piece of markup
stands where an expression may stand is visible in the types: inside a `Node` it
does, while the children and the direct attribute values of other markup are
`Child.jsx` and `AttrValue.jsx`.
-/

namespace JsxVNode

/-- A scalar attribute of a labelled node. -/
inductive Datum where
  | flag (value : Bool)
  | number (value : Nat)
  | text (value : String)
  | range (value : Span)
  deriving DecidableEq, Repr, Inhabited

/-- What a labelled node is, apart from its parts. -/
structure Label where
  form : Form
  span : Span
  /-- The scalar attributes, such as an operator or an `async` mark, by name. -/
  data : List (String × Datum)
  deriving DecidableEq, Repr, Inhabited

/-- A dotted name: an identifier or a member of a dotted name. -/
inductive TagPath where
  | ident (name : Ident)
  | member (span : Span) (object : TagPath) (property : Ident)
  deriving DecidableEq, Repr, Inhabited

/-- A name with a colon. -/
structure QualifiedName where
  span : Span
  space : Ident
  name : Ident
  deriving DecidableEq, Repr, Inhabited

/-- The name as it is spelled. -/
def QualifiedName.spelling (n : QualifiedName) : String :=
  n.space.name ++ ":" ++ n.name.name

/-- The name of a markup tag. -/
inductive TagName where
  | path (path : TagPath)
  | qualified (name : QualifiedName)
  deriving DecidableEq, Repr, Inhabited

/-- The name of a markup attribute. -/
inductive AttrName where
  | plain (name : Ident)
  | qualified (name : QualifiedName)
  deriving DecidableEq, Repr, Inhabited

/-- The name as it is spelled. -/
def AttrName.spelling : AttrName → String
  | .plain name => name.name
  | .qualified name => name.spelling

/-- An opening tag without its attributes. -/
structure Opening where
  span : Span
  selfClosing : Bool
  name : TagName
  deriving DecidableEq, Repr, Inhabited

/-- A closing tag. -/
structure Closing where
  span : Span
  name : TagName
  deriving DecidableEq, Repr, Inhabited

mutual

/-- A node of a program tree. -/
inductive Node where
  /-- A part that is missing: a hole in an array, or an optional part left out. -/
  | hole
  | ident (name : Ident)
  | lit (value : Literal)
  | paren (span : Span) (body : Node)
  /-- An array literal; an element may be a `hole` or a `spread`. -/
  | array (span : Span) (elements : List Node)
  /-- An object literal; a property is a `pair`, a shorthand `ident`, a `spread` or an accessor. -/
  | object (span : Span) (properties : List Node)
  /-- An operand after three dots, which have a range of their own. -/
  | spread (dots : Span) (operand : Node)
  /-- A property `key: value`; a computed key is a form of its own. -/
  | pair (key value : Node)
  /-- A call; an argument may be a `spread`. -/
  | call (span : Span) (scope : Nat) (callee : Node) (args : List Node)
  /-- Markup where an expression may stand. -/
  | jsx (markup : Jsx)
  /-- A list of parts that fills one field of a form. -/
  | group (items : List Node)
  /-- Any other production; one part for each field, in visiting order. -/
  | form (label : Label) (parts : List Node)

/-- A piece of markup. -/
inductive Jsx where
  | element (span : Span) (opening : Opening) (attrs : List Attr) (children : List Child)
      (closing : Option Closing)
  | fragment (span opening closing : Span) (children : List Child)

/-- An item of an opening tag. -/
inductive Attr where
  | named (span : Span) (name : AttrName) (value : AttrValue)
  | spread (dots : Span) (operand : Node)

/-- What follows the name of an attribute. -/
inductive AttrValue where
  /-- Nothing follows. -/
  | bare
  | lit (value : Literal)
  /-- An expression in braces. -/
  | container (span : Span) (body : Node)
  /-- Braces around nothing. -/
  | empty (span inner : Span)
  | jsx (markup : Jsx)

/-- An item between an opening and a closing tag. -/
inductive Child where
  | text (span : Span) (value raw : String)
  /-- An expression in braces. -/
  | container (span : Span) (body : Node)
  /-- Braces around nothing. -/
  | empty (span inner : Span)
  /-- A spread expression in braces. -/
  | spread (span : Span) (operand : Node)
  | jsx (markup : Jsx)

end

instance : Inhabited Node := ⟨.hole⟩

/-- Whether a program may import. -/
inductive ProgramKind where
  | module
  | script
  deriving DecidableEq, Repr, Inhabited

/-- A source file. -/
structure Program where
  kind : ProgramKind
  span : Span
  /-- The interpreter line, if the file starts with one. -/
  interpreter : Option String
  body : List Node

namespace Jsx

/-- The range of a piece of markup. -/
def span : Jsx → Span
  | .element span .. => span
  | .fragment span .. => span

end Jsx

end JsxVNode
