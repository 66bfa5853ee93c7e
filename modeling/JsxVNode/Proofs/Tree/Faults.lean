import JsxVNode.Compile.Directive
import Mathlib.Data.List.Forall2
import Mathlib.Data.Option.Basic

/-!
# Faulty markup

The conditions under which an element cannot be compiled, said about the element as it
is written: a tag with a colon, a model without an expression to bind, several models
on something that is not a component or not given as an array of arrays, and a bound
value that cannot be assigned to.

The conditions look only at the outer shape of a directive's value. Two expressions
are alike if they have the same outer shape, and alike values are faulty together.
-/

namespace JsxVNode

/-- The expressions that can be assigned to: an identifier, a member of an object or of the
superclass, in any number of parentheses. -/
inductive Node.Assignable : Node → Prop where
  | ident (name : Ident) : Assignable (.ident name)
  | member (span : Span) (data : List (String × Datum)) (parts : List Node) :
      Assignable (.form ⟨.memberExpression, span, data⟩ parts)
  | superProp (span : Span) (data : List (String × Datum)) (parts : List Node) :
      Assignable (.form ⟨.superPropExpression, span, data⟩ parts)
  | paren (span : Span) {body : Node} (h : Assignable body) : Assignable (.paren span body)

/-- The elements of an array literal inside any number of parentheses. -/
def Node.arrayElements? (node : Node) : Option (List Node) := node.unparen.elements?

/-- The elements of an array literal that is itself an element of an array. -/
def Node.innerElements? (element : Node) : Option (List Node) :=
  element.elementExpr?.bind Node.arrayElements?

/-- The value that an array literal binds, which is its first element. -/
def Node.firstBound? (elements : List Node) : Option Node :=
  elements.head?.bind Node.elementExpr?

/-- The values that a model directive binds. One model binds the first element of its array, and
several models the first element of each inner array. A value that is no array, and the empty
array of several models, is bound itself. -/
def boundValues (several : Bool) (value : Option Node) : List (Option Node) :=
  match value.bind Node.arrayElements?, several with
  | none, _ => [value]
  | some elements, false => [Node.firstBound? elements]
  | some [], true => [value]
  | some elements, true =>
    elements.map fun element => element.innerElements?.bind Node.firstBound?

/-- Several models are given by an array with an element that is not an array itself. -/
def NotNested (value : Option Node) : Prop :=
  ∃ elements ∈ value.bind Node.arrayElements?, ∃ element ∈ elements, element.innerElements? = none

/-- A model binds a value that is missing or cannot be assigned to. -/
def BindsUnassignable (several : Bool) (value : Option Node) : Prop :=
  ∃ bound ∈ boundValues several value, ∀ node ∈ bound, ¬ node.Assignable

/-- The faults of a directive attribute. `inBraces` tells whether its value stands in braces. -/
inductive DirectiveFault (isComponent : Bool) (name : AttrName) (inBraces : Bool)
    (value : Option Node) : Prop where
  | noExpression (hd : isDirectiveName name.spelling = true)
      (hn : (DirectiveName.ofAttr name).name = "model") (hb : inBraces = false)
  | notOnComponent (hd : isDirectiveName name.spelling = true)
      (hn : (DirectiveName.ofAttr name).name = "models") (hc : isComponent = false)
  | notNested (hd : isDirectiveName name.spelling = true)
      (hn : (DirectiveName.ofAttr name).name = "models") (hv : NotNested value)
  | notAssignable (hd : isDirectiveName name.spelling = true) (several : Bool)
      (hn : (DirectiveName.ofAttr name).name = if several then "models" else "model")
      (hv : BindsUnassignable several value)

/-- Only an attribute that is a directive has a directive's fault. -/
theorem DirectiveFault.isDirectiveName {isComponent : Bool} {name : AttrName} {inBraces : Bool}
    {value : Option Node} (h : DirectiveFault isComponent name inBraces value) :
    isDirectiveName name.spelling = true := by
  cases h <;> assumption

/-- The expression that an attribute's value stands for; there is none without a value or with
empty braces. -/
def AttrValue.expr? : AttrValue → Option Node
  | .bare => none
  | .lit value => some (.lit value)
  | .container _ body => some body
  | .empty .. => none
  | .jsx markup => some (.jsx markup)

/-- The faults of an attribute of a tag. -/
def Attr.Faulty (isComponent : Bool) : Attr → Prop
  | .named _ name value => DirectiveFault isComponent name value.isContainer value.expr?
  | .spread .. => False

/-- Whether a tag is a component: no element of the platform, no custom element and none of the
tags whose children stay a plain list. -/
def TagName.isComponent (options : Options) : TagName → Bool
  | .path (.ident name) =>
    !Tag.isIntrinsic name.name && !options.customElements.contains name.name &&
      !Tag.isSlotless name.name
  | .path (.member _ _ property) => !Tag.isSlotless property.name
  | .qualified _ => false

/-- The faults of a piece of markup by itself, apart from the markup inside it. -/
inductive Jsx.Faulty (options : Options) : Jsx → Prop where
  | qualifiedTag (span : Span) {opening : Opening} (attrs : List Attr) (children : List Child)
      (closing : Option Closing) {name : QualifiedName} (h : opening.name = .qualified name) :
      Faulty options (.element span opening attrs children closing)
  | attribute (span : Span) (opening : Opening) {attrs : List Attr} (children : List Child)
      (closing : Option Closing)
      (h : ∃ attr ∈ attrs, attr.Faulty (opening.name.isComponent options)) :
      Faulty options (.element span opening attrs children closing)

/-- An element is faulty if and only if its tag has a namespace or an attribute of it is faulty. -/
theorem Jsx.faulty_element_iff {options : Options} {span : Span} {opening : Opening}
    {attrs : List Attr} {children : List Child} {closing : Option Closing} :
    (Jsx.element span opening attrs children closing).Faulty options ↔
      (∃ name, opening.name = .qualified name) ∨
        ∃ attr ∈ attrs, attr.Faulty (opening.name.isComponent options) := by
  constructor
  · rintro (⟨_, _, _, _, h⟩ | ⟨_, _, _, _, h⟩)
    · exact Or.inl ⟨_, h⟩
    · exact Or.inr h
  · rintro (⟨name, h⟩ | h)
    · exact .qualifiedTag span attrs children closing h
    · exact .attribute span opening children closing h

/-- A fragment is never faulty itself. -/
theorem Jsx.not_faulty_fragment {options : Options} {span opening closing : Span}
    {children : List Child} : ¬ (Jsx.fragment span opening closing children).Faulty options := by
  rintro ⟨⟩

/-- None of several pieces of markup is faulty. -/
def Sound (options : Options) (markups : List Jsx) : Prop :=
  ∀ markup ∈ markups, ¬ markup.Faulty options

theorem sound_cons_iff {options : Options} {markup : Jsx} {markups : List Jsx} :
    Sound options (markup :: markups) ↔ ¬ markup.Faulty options ∧ Sound options markups :=
  List.forall_mem_cons

theorem sound_append_iff {options : Options} {markups markups' : List Jsx} :
    Sound options (markups ++ markups') ↔ Sound options markups ∧ Sound options markups' :=
  List.forall_mem_append

/-- The markup in a list of items, one of which is looked at. -/
theorem sound_flatMap_iff {α : Type} {options : Options} {f : α → List Jsx} {before after : List α}
    {x : α} : Sound options ((before ++ x :: after).flatMap f) ↔
      Sound options (before.flatMap f) ∧ Sound options (f x) ∧ Sound options (after.flatMap f) := by
  rw [List.flatMap_append, List.flatMap_cons, sound_append_iff, sound_append_iff]

namespace Node

/-- Whether a node is none of the shapes that the conditions tell apart. -/
def isOther : Node → Bool
  | .hole | .ident _ | .paren .. | .array .. | .spread .. | .form .. => false
  | _ => true

/-- Two nodes have the same outer shape. -/
inductive Alike : Node → Node → Prop where
  | refl (node : Node) : Alike node node
  | paren (span : Span) {a b : Node} (h : Alike a b) : Alike (.paren span a) (.paren span b)
  | array (span : Span) {as bs : List Node} (h : List.Forall₂ Alike as bs) :
      Alike (.array span as) (.array span bs)
  | spread (dots : Span) {a b : Node} (h : Alike a b) : Alike (.spread dots a) (.spread dots b)
  | form (label : Label) (as bs : List Node) : Alike (.form label as) (.form label bs)
  | other {a b : Node} (ha : a.isOther = true) (hb : b.isOther = true) : Alike a b

/-- A node of any other shape has no parentheses to take off. -/
theorem unparen_of_isOther {node : Node} (h : node.isOther = true) : node.unparen = node := by
  cases node with
  | paren => cases h
  | _ => rfl

/-- Alike expressions stay alike without their parentheses. -/
theorem Alike.unparen {a b : Node} (h : Alike a b) : Alike a.unparen b.unparen := by
  match h with
  | .refl node => exact .refl _
  | .paren _ h => exact h.unparen
  | .array span h => exact .array span h
  | .spread dots h => exact .spread dots h
  | .form label as bs => exact .form label as bs
  | .other ha hb =>
    rw [unparen_of_isOther ha, unparen_of_isOther hb]
    exact .other ha hb

theorem Alike.elements {a b : Node} (h : Alike a b) :
    Option.Rel (List.Forall₂ Alike) a.elements? b.elements? := by
  cases h with
  | refl =>
    cases a with
    | array span elements => exact .some (List.forall₂_same.mpr fun node _ => .refl node)
    | _ => exact .none
  | array span h => exact .some h
  | other ha hb =>
    have hn {node : Node} (ho : node.isOther = true) : node.elements? = none := by
      cases node <;> first | rfl | cases ho
    rw [hn ha, hn hb]
    exact .none
  | _ => exact .none

/-- The expressions of alike elements are alike. -/
theorem Alike.elementExpr {a b : Node} (h : Alike a b) :
    Option.Rel Alike a.elementExpr? b.elementExpr? := by
  cases h with
  | refl =>
    cases a with
    | hole => exact .none
    | _ => exact .some (.refl _)
  | paren span h => exact .some (.paren span h)
  | array span h => exact .some (.array span h)
  | spread dots h => exact .some h
  | form label as bs => exact .some (.form label as bs)
  | other ha hb =>
    have hn {node : Node} (ho : node.isOther = true) : node.elementExpr? = some node := by
      cases node <;> first | rfl | cases ho
    rw [hn ha, hn hb]
    exact .some (.other ha hb)

/-- What is no identifier, no form and not in parentheses cannot be assigned to. -/
theorem not_assignable_of_isOther {node : Node} (h : node.isOther = true) : ¬ node.Assignable := by
  rintro (_ | _ | _ | _) <;> cases h

/-- Parentheses do not matter for assigning. -/
@[simp] theorem assignable_paren_iff {span : Span} {body : Node} :
    (paren span body).Assignable ↔ body.Assignable := by
  constructor
  · rintro (_ | _ | _ | ⟨_, h⟩)
    exact h
  · exact .paren span

/-- Among forms only members can be assigned to. -/
@[simp] theorem assignable_form_iff {label : Label} {parts : List Node} :
    (form label parts).Assignable ↔
      label.form = .memberExpression ∨ label.form = .superPropExpression := by
  obtain ⟨form, span, data⟩ := label
  constructor
  · rintro (_ | _ | _ | _)
    · exact Or.inl rfl
    · exact Or.inr rfl
  · rintro (rfl | rfl)
    · exact .member span data parts
    · exact .superProp span data parts

/-- Alike expressions can be assigned to together. -/
theorem Alike.assignable_iff {a b : Node} (h : Alike a b) : a.Assignable ↔ b.Assignable := by
  match h with
  | .refl _ => exact Iff.rfl
  | .paren span h => rw [assignable_paren_iff, assignable_paren_iff, h.assignable_iff]
  | .array span h => constructor <;> rintro ⟨⟩
  | .spread dots h => constructor <;> rintro ⟨⟩
  | .form label as bs => rw [assignable_form_iff, assignable_form_iff]
  | .other ha hb => exact iff_of_false (not_assignable_of_isOther ha) (not_assignable_of_isOther hb)

end Node

section Relations

variable {α β γ δ : Type} {R : α → β → Prop} {S : γ → δ → Prop}

/-- Related values lead to related results if every step keeps them related. -/
private theorem rel_bind {a : Option α} {b : Option β} (h : Option.Rel R a b)
    {f : α → Option γ} {g : β → Option δ} (hf : ∀ {a b}, R a b → Option.Rel S (f a) (g b)) :
    Option.Rel S (a.bind f) (b.bind g) := by
  cases h with
  | none => exact .none
  | some h => exact hf h

private theorem rel_head {as : List α} {bs : List β} (h : List.Forall₂ R as bs) :
    Option.Rel R as.head? bs.head? := by
  cases h with
  | nil => exact .none
  | cons h _ => exact .some h

/-- Lists related item by item satisfy a condition somewhere together. -/
private theorem exists_mem_iff_of_forall₂ {P : α → Prop} {Q : β → Prop}
    (hR : ∀ {a b}, R a b → (P a ↔ Q b)) {as : List α} {bs : List β}
    (h : List.Forall₂ R as bs) : (∃ a ∈ as, P a) ↔ ∃ b ∈ bs, Q b := by
  induction h with
  | nil => simp
  | cons hab _ ih => rw [List.exists_mem_cons_iff, List.exists_mem_cons_iff, hR hab, ih]

end Relations

namespace Node

/-- Alike expressions are arrays with alike elements together. -/
theorem Alike.arrayElements {a b : Node} (h : Alike a b) :
    Option.Rel (List.Forall₂ Alike) a.arrayElements? b.arrayElements? :=
  h.unparen.elements

theorem Alike.innerElements {a b : Node} (h : Alike a b) :
    Option.Rel (List.Forall₂ Alike) a.innerElements? b.innerElements? :=
  rel_bind h.elementExpr Alike.arrayElements

theorem Alike.firstBound {as bs : List Node} (h : List.Forall₂ Alike as bs) :
    Option.Rel Alike (firstBound? as) (firstBound? bs) :=
  rel_bind (rel_head h) Alike.elementExpr

end Node

variable {a b : Option Node}

/-- Alike values are nested arrays together. -/
theorem notNested_iff_of_alike (h : Option.Rel Node.Alike a b) : NotNested a ↔ NotNested b := by
  have hinner {a b : Node} (h : Node.Alike a b) :
      a.innerElements? = none ↔ b.innerElements? = none := by
    have hi := h.innerElements
    generalize a.innerElements? = inner, b.innerElements? = inner' at hi ⊢
    cases hi <;> simp
  unfold NotNested
  have he := rel_bind h Node.Alike.arrayElements
  generalize a.bind Node.arrayElements? = elements, b.bind Node.arrayElements? = elements' at he ⊢
  cases he with
  | none => simp
  | some he => simpa using exists_mem_iff_of_forall₂ (R := Node.Alike) hinner he

/-- Alike values bind alike values. -/
theorem boundValues_alike (several : Bool) (h : Option.Rel Node.Alike a b) :
    List.Forall₂ (Option.Rel Node.Alike) (boundValues several a) (boundValues several b) := by
  have hself : List.Forall₂ (Option.Rel Node.Alike) [a] [b] := .cons h .nil
  unfold boundValues
  have he := rel_bind h Node.Alike.arrayElements
  generalize a.bind Node.arrayElements? = elements, b.bind Node.arrayElements? = elements' at he ⊢
  cases he with
  | none => exact hself
  | some he =>
    cases several with
    | false => exact .cons (Node.Alike.firstBound he) .nil
    | true =>
      cases he with
      | nil => exact hself
      | cons hx hxs =>
        refine List.rel_map (fun _ _ hx => ?_) (List.Forall₂.cons hx hxs)
        exact rel_bind hx.innerElements Node.Alike.firstBound

/-- Alike values bind something that cannot be assigned to together. -/
theorem bindsUnassignable_iff_of_alike {several : Bool} (h : Option.Rel Node.Alike a b) :
    BindsUnassignable several a ↔ BindsUnassignable several b := by
  refine exists_mem_iff_of_forall₂ (fun hv => ?_) (boundValues_alike several h)
  cases hv with
  | none => simp
  | some h => simp [h.assignable_iff]

/-- The faults of a directive are the same for alike values. -/
theorem directiveFault_iff_of_alike {isComponent : Bool} {name : AttrName} {inBraces : Bool}
    (h : Option.Rel Node.Alike a b) :
    DirectiveFault isComponent name inBraces a ↔ DirectiveFault isComponent name inBraces b := by
  constructor
  · rintro (⟨hd, hn, hb⟩ | ⟨hd, hn, hc⟩ | ⟨hd, hn, hv⟩ | ⟨hd, several, hn, hv⟩)
    · exact .noExpression hd hn hb
    · exact .notOnComponent hd hn hc
    · exact .notNested hd hn ((notNested_iff_of_alike h).mp hv)
    · exact .notAssignable hd several hn ((bindsUnassignable_iff_of_alike h).mp hv)
  · rintro (⟨hd, hn, hb⟩ | ⟨hd, hn, hc⟩ | ⟨hd, hn, hv⟩ | ⟨hd, several, hn, hv⟩)
    · exact .noExpression hd hn hb
    · exact .notOnComponent hd hn hc
    · exact .notNested hd hn ((notNested_iff_of_alike h).mpr hv)
    · exact .notAssignable hd several hn ((bindsUnassignable_iff_of_alike h).mpr hv)

end JsxVNode
