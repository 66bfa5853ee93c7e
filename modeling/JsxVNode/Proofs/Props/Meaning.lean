import JsxVNode.Proofs.Props.Runs

/-!
# The meaning of folded properties

An object literal is evaluated from its first property to its last, and a later
definition of a key overrides an earlier one. The keys that are computed, and those of
spread operands, are known only then; they are taken to be anything. Folding moves the
last value of a name to the place where the name occurs first. That changes nothing
unless, between the two places, a property without a static name defines the same key.
-/

namespace JsxVNode

/-- The text of a number whose decimal digits are given, with a point among them if there is one:
from `10 ^ 21` on and below `10 ^ -6` it is written with an exponent. -/
def Numeric.numberText (digits : List Char) : List Char :=
  let whole := digits.takeWhile (· ≠ '.')
  let all := whole ++ (digits.dropWhile (· ≠ '.')).drop 1
  let leading := all.takeWhile (· = '0')
  let exponent : Int := whole.length - leading.length - 1
  if -6 ≤ exponent ∧ exponent ≤ 20 then digits
  else
    let significant := ((all.drop leading.length).reverse.dropWhile (· = '0')).reverse
    let mantissa := match significant with
      | first :: second :: rest => first :: '.' :: second :: rest
      | significant => significant
    mantissa ++ 'e' :: (if exponent < 0 then '-' else '+') :: (toString exponent.natAbs).toList

/-- The key that a number in place of a property name denotes. -/
def Numeric.keyText : Numeric → String
  | .whole value => toString value
  | .decimal digits => String.ofList (numberText digits.toList)

namespace Node

/-- The key that a property name denotes, unless it is computed. -/
def keyText? : Node → Option String
  | .ident name => some name.name
  | .lit l =>
    match l.value with
    | .str value => some value
    | .num value => some value.keyText
    | .bigint sign digits =>
      some (toString (sign * (digits.foldr (fun digit rest => digit + rest <<< 32) 0 : Nat)))
    | _ => none
  | _ => none

/-- Whether a node is a method, a getter or a setter of an object literal. -/
def isMethod : Node → Bool
  | .form label _ =>
    label.form == .methodProperty || label.form == .getterProperty ||
      label.form == .setterProperty
  | _ => false

/-- The key that a property with a static name denotes. -/
def definedKey? : Node → Option String
  | .pair key _ => key.keyText?
  | .ident name => some name.name
  | _ => none

/-- If a property has a static name, it defines the key exactly if this is its name. -/
def NamesKey (key : String) (property : Node) : Prop :=
  ∀ name, property.propertyName? = some name → (name = key ↔ property.definedKey? = some key)

end Node

/-- What is known of an object literal only when it is evaluated. The properties without a static
name are counted from zero: one with a computed key has a key then, and one that is a spread
operand has keys with their values. -/
structure Evaluation where
  key : Nat → String
  entries : Nat → List (String × Node)

namespace Node

/-- The keys that a property defines, with their values. A method or accessor is its own value. -/
def defines (e : Evaluation) (index : Nat) : Node → List (String × Node)
  | .pair key value => [(key.keyText?.getD (e.key index), value)]
  | .ident name => [(name.name, .ident name)]
  | .spread .. => e.entries index
  | .form label (key :: parts) =>
    if (form label (key :: parts)).isMethod then
      [(key.keyText?.getD (e.key index), .form label (key :: parts))]
    else []
  | _ => []

/-- Properties with the numbers of those that have no static name; any other has the number of the
next one. -/
def numbered (index : Nat) : List Node → List (Nat × Node)
  | [] => []
  | property :: properties =>
    (index, property) :: numbered (if property.isUnnamed then index + 1 else index) properties

/-- All that the properties of an object literal define, in the order of their evaluation. -/
def definitions (e : Evaluation) (index : Nat) (properties : List Node) : List (String × Node) :=
  (numbered index properties).flatMap fun numbered => numbered.2.defines e numbered.1

/-- A property without a static name defines a key, and in its run it stands after one property of
that static name and before another. -/
def Overtaken (e : Evaluation) (index : Nat) (key : String) (properties : List Node) : Prop :=
  ∃ before first between last after,
    properties = before ++ first :: (between ++ last :: after) ∧
      first.propertyName? = some key ∧ last.propertyName? = some key ∧ SpreadFree between ∧
      ∃ hidden ∈ numbered (index + before.countP isUnnamed) between,
        hidden.2.isUnnamed = true ∧ ∃ value, (key, value) ∈ hidden.2.defines e hidden.1

variable {e : Evaluation} {index : Nat} {key name : String} {property : Node}
  {run properties : List Node}

/-- A property keeps its key whatever its value is. -/
theorem definedKey?_pair_propertyKey (hn : property.propertyName? = some name) (value : Node) :
    (pair property.propertyKey value).definedKey? = property.definedKey? := by
  cases property with
  | pair key _ => rfl
  | ident ident => rfl
  | _ => cases hn

/-- A property with the same key and another value still names the key it named. -/
theorem NamesKey.pair_propertyKey (h : property.NamesKey key)
    (hn : property.propertyName? = some name) (value : Node) :
    (pair property.propertyKey value).NamesKey key := by
  intro other ho
  rw [definedKey?_pair_propertyKey hn]
  have hname : (pair property.propertyKey value).propertyName? = some name :=
    keyName?_propertyKey hn
  rw [hname] at ho
  cases ho
  exact h name hn

/-- Folding a value in changes nothing about the key that is named. -/
theorem NamesKey.foldProperty (h : property.NamesKey key)
    (hn : property.propertyName? = some name) (later : Node) :
    (foldProperty name property later).NamesKey key :=
  h.pair_propertyKey hn _

/-- Gathering the values of a run changes nothing about the key that is named. -/
theorem NamesKey.gathered (h : property.NamesKey key) (run : List Node) :
    (gathered run property).NamesKey key := by
  unfold Node.gathered
  split
  · exact h
  · rename_i name hn
    split
    · exact h.pair_propertyKey hn _
    · exact h

/-- What is overtaken in a list is overtaken in every list that begins with it. -/
theorem Overtaken.append {first : List Node} (h : Overtaken e index key first)
    (second : List Node) : Overtaken e index key (first ++ second) := by
  obtain ⟨before, one, between, last, after, rfl, h⟩ := h
  refine ⟨before, one, between, last, after ++ second, ?_, h⟩
  simp

theorem Overtaken.append_right {first second : List Node}
    (h : Overtaken e (index + first.countP isUnnamed) key second) :
    Overtaken e index key (first ++ second) := by
  obtain ⟨before, one, between, last, after, rfl, h⟩ := h
  refine ⟨first ++ before, one, between, last, after, ?_, ?_⟩
  · simp
  · rw [List.countP_append, ← Nat.add_assoc]
    exact h

end Node

end JsxVNode
