import JsxVNode.Proofs.Props.Meaning

/-!
# Evaluation

What evaluating an expression does, as far as it is made of identifiers, literals,
templates, arrays and objects. Evaluation may read and change the values of all
identifiers, and it may end abruptly; what the other productions do is left open. The
values of the name `undefined` determine the result of an evaluation if, with these
values, it always gives that result and changes nothing.
-/

namespace JsxVNode

/-- The value of an expression. Two arrays or objects with the same contents are one value. -/
inductive Value where
  | undefined
  | literal (value : LiteralValue)
  | array (items : List Value)
  /-- An object by its definitions in order; a later one overrides an earlier one of its key. -/
  | object (definitions : List (String × Value))
  /-- Anything else, such as a function, by a number of its own. -/
  | existing (number : Nat)

/-- The values of the identifiers. -/
abbrev Environment := Id → Value

/-- A step of an evaluation: it ends abruptly, or it has a result and leaves an environment
behind. -/
abbrev Evaluating := StateT Environment Option

/-- What the productions do that evaluation does not look into. -/
abbrev Productions := Node → Evaluating Value

namespace Node

/-- Whether a node is a property with a key that is written out, and with a value. -/
def hasWrittenKey : Node → Bool
  | .pair key _ => key.keyText?.isSome
  | _ => false

/-- Whether an element of an array literal is one expression: neither a hole nor spread. -/
def isElement : Node → Bool
  | .hole | .spread .. => false
  | _ => true

/-- The text that a piece of a template stands for. A piece without one, in which an escape means
nothing, can only stand in a template that is handed to a function. -/
def cookedText : Node → String
  | .form label _ =>
    match label.data.lookup "cooked" with
    | some (.text text) => text
    | _ => ""
  | _ => ""

/-- The text that a template without interpolations stands for. -/
def templateText? (label : Label) : List Node → Option String
  | [.group [], .group texts] =>
    if label.form = .templateLiteral then some (String.join (texts.map cookedText)) else none
  | _ => none

mutual

/-- The evaluation of an expression. An array with a hole or a spread operand and an object with
anything but keys that are written out are among the productions that are not looked into. -/
def eval (other : Productions) : Node → Evaluating Value
  | .ident name => do return (← get) name.id
  | .lit l => return .literal l.value
  | .paren _ body => body.eval other
  | .array span elements =>
    if elements.all isElement then do return .array (← evalAll other elements)
    else other (.array span elements)
  | .object span properties =>
    if properties.all hasWrittenKey then do return .object (← evalProperties other properties)
    else other (.object span properties)
  | .form label parts =>
    match templateText? label parts with
    | some text => return .literal (.str text)
    | none => other (.form label parts)
  | node => other node

/-- The evaluation of the elements of an array, from first to last. -/
def evalAll (other : Productions) : List Node → Evaluating (List Value)
  | [] => return []
  | element :: elements => do
    let value ← element.eval other
    let values ← evalAll other elements
    return value :: values

/-- The evaluation of properties, from first to last, that all have keys that are written out. -/
def evalProperties (other : Productions) : List Node → Evaluating (List (String × Value))
  | .pair key value :: properties => do
    let value ← value.eval other
    let definitions ← evalProperties other properties
    return (key.keyText?.getD "", value) :: definitions
  | _ => return []

end

end Node

/-- An evaluation gives a result and changes nothing, in every environment in which the name
`undefined` has the given values, scope by scope, and whatever the productions do that it does not
look into. -/
def Determines {α : Type} (undefineds : Nat → Value) (evaluation : Productions → Evaluating α)
    (result : α) : Prop :=
  ∀ (other : Productions) (env : Environment),
    (∀ scope, env ⟨"undefined", scope⟩ = undefineds scope) →
    (evaluation other).run env = some (result, env)

namespace Determines

variable {α β : Type} {undefineds : Nat → Value}

theorem pure (a : α) : Determines undefineds (fun _ => Pure.pure a) a := fun _ _ _ => rfl

/-- One evaluation after another determines what the second one does. -/
theorem bind {x : Productions → Evaluating α} {f : Productions → α → Evaluating β} {a : α} {b : β}
    (hx : Determines undefineds x a) (hf : Determines undefineds (fun other => f other a) b) :
    Determines undefineds (fun other => x other >>= f other) b := by
  intro other env henv
  rw [StateT.run_bind, hx other env henv, Option.bind_eq_bind, Option.bind_some]
  exact hf other env henv

/-- What is computed from a determined result is determined. -/
theorem map (f : α → β) {x : Productions → Evaluating α} {a : α}
    (hx : Determines undefineds x a) :
    Determines undefineds (fun other => do return f (← x other)) (f a) :=
  hx.bind (f := fun _ a => Pure.pure (f a)) (pure (f a))

/-- Whether a result is determined depends only on what the evaluation does. -/
theorem of_eq {x y : Productions → Evaluating α} {a : α} (h : ∀ other, y other = x other)
    (hx : Determines undefineds x a) : Determines undefineds y a := by
  rw [funext h]
  exact hx

/-- The name `undefined` has the value that is given for its scope. -/
theorem undefined {name : Ident} (h : name.name = "undefined") :
    Determines undefineds (fun other => (Node.ident name).eval other) (undefineds name.scope) := by
  intro other env henv
  have hvalue : env name.id = undefineds name.scope := by
    rw [← henv, ← h]
    rfl
  exact congrArg (fun value => some (value, env)) hvalue

/-- A template without interpolations is its text. -/
theorem template {label : Label} (h : label.form = .templateLiteral) (texts : List Node) :
    Determines undefineds (fun other => (Node.form label [.group [], .group texts]).eval other)
      (.literal (.str (String.join (texts.map Node.cookedText)))) := by
  have htext : Node.templateText? label [.group [], .group texts] =
      some (String.join (texts.map Node.cookedText)) := if_pos h
  refine of_eq (fun other => ?_) (pure _)
  rw [Node.eval, htext]

/-- Elements that are determined one by one determine the values of the array. -/
theorem exists_evalAll {elements : List Node}
    (h : ∀ element ∈ elements,
      ∃ value, Determines undefineds (fun other => element.eval other) value) :
    ∃ values, Determines undefineds (fun other => Node.evalAll other elements) values := by
  induction elements with
  | nil => exact ⟨[], pure []⟩
  | cons element elements ih =>
    rw [List.forall_mem_cons] at h
    obtain ⟨value, hvalue⟩ := h.1
    obtain ⟨values, hvalues⟩ := ih h.2
    exact ⟨value :: values, hvalue.bind (hvalues.map (value :: ·))⟩

/-- An array has a value if its elements have values. -/
theorem exists_array (span : Span) {elements : List Node}
    (hall : ∀ element ∈ elements, element.isElement = true)
    (h : ∀ element ∈ elements,
      ∃ value, Determines undefineds (fun other => element.eval other) value) :
    ∃ value, Determines undefineds (fun other => (Node.array span elements).eval other) value := by
  obtain ⟨values, hvalues⟩ := exists_evalAll h
  refine ⟨.array values, of_eq (fun other => ?_) (hvalues.map Value.array)⟩
  rw [Node.eval, if_pos (List.all_eq_true.mpr hall)]

/-- Properties whose values are determined one by one determine the definitions of the object. -/
theorem exists_evalProperties {properties : List Node}
    (h : ∀ property ∈ properties,
      ∃ value, Determines undefineds (fun other => property.propertyValue.eval other) value) :
    ∃ definitions,
      Determines undefineds (fun other => Node.evalProperties other properties) definitions := by
  induction properties with
  | nil => exact ⟨[], pure []⟩
  | cons property properties ih =>
    rw [List.forall_mem_cons] at h
    obtain ⟨definitions, hdefinitions⟩ := ih h.2
    cases property with
    | pair key node =>
      obtain ⟨value, hvalue⟩ := h.1
      exact ⟨(key.keyText?.getD "", value) :: definitions,
        bind hvalue (hdefinitions.map ((key.keyText?.getD "", value) :: ·))⟩
    | _ => exact ⟨[], pure []⟩

/-- An object has a value if its keys are written out and its properties have values. -/
theorem exists_object (span : Span) {properties : List Node}
    (hkeys : ∀ property ∈ properties, property.hasWrittenKey = true)
    (h : ∀ property ∈ properties,
      ∃ value, Determines undefineds (fun other => property.propertyValue.eval other) value) :
    ∃ value,
      Determines undefineds (fun other => (Node.object span properties).eval other) value := by
  obtain ⟨definitions, hdefinitions⟩ := exists_evalProperties h
  refine ⟨.object definitions, of_eq (fun other => ?_) (hdefinitions.map Value.object)⟩
  rw [Node.eval, if_pos (List.all_eq_true.mpr hkeys)]

end Determines

end JsxVNode
