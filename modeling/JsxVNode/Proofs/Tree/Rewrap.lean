import JsxVNode.Bindings
import JsxVNode.Proofs.Tree.Faults
import JsxVNode.Proofs.Tree.Markup
import JsxVNode.Proofs.Tree.Nodes

/-!
# Putting markup into braces

Markup stands directly in other markup or in an expression in braces. The relation of
this file puts one piece that is a child of an element, or the value of one of its
attributes, into braces, wherever the element is in a program. It changes neither what
a program declares nor whether some markup in it is faulty.
-/

namespace JsxVNode

/-- Whether a tag names the fragment. -/
def TagName.isFragment : TagName → Bool
  | .path (.ident name) => name.name = Tag.fragment
  | .path (.member _ _ property) => property.name = Tag.fragment
  | .qualified _ => false

/-- Whether an attribute is the directive that binds a model. -/
def AttrName.isModel (name : AttrName) : Bool :=
  isDirectiveName name.spelling && (DirectiveName.ofAttr name).name == "model"

mutual

/-- In a node one piece of markup is put into braces. -/
inductive Node.Rewraps : Node → Node → Prop where
  | paren (span : Span) {x y : Node} (h : Node.Rewraps x y) :
      Node.Rewraps (.paren span x) (.paren span y)
  | array (span : Span) (before after : List Node) {x y : Node} (h : Node.Rewraps x y) :
      Node.Rewraps (.array span (before ++ x :: after)) (.array span (before ++ y :: after))
  | object (span : Span) (before after : List Node) {x y : Node} (h : Node.Rewraps x y) :
      Node.Rewraps (.object span (before ++ x :: after)) (.object span (before ++ y :: after))
  | spread (dots : Span) {x y : Node} (h : Node.Rewraps x y) :
      Node.Rewraps (.spread dots x) (.spread dots y)
  | key (value : Node) {x y : Node} (h : Node.Rewraps x y) :
      Node.Rewraps (.pair x value) (.pair y value)
  | value (key : Node) {x y : Node} (h : Node.Rewraps x y) :
      Node.Rewraps (.pair key x) (.pair key y)
  | callee (span : Span) (scope : Nat) (args : List Node) {x y : Node} (h : Node.Rewraps x y) :
      Node.Rewraps (.call span scope x args) (.call span scope y args)
  | arg (span : Span) (scope : Nat) (callee : Node) (before after : List Node) {x y : Node}
      (h : Node.Rewraps x y) :
      Node.Rewraps (.call span scope callee (before ++ x :: after))
        (.call span scope callee (before ++ y :: after))
  | jsx {markup markup' : Jsx} (h : Jsx.Rewraps markup markup') :
      Node.Rewraps (.jsx markup) (.jsx markup')
  | group (before after : List Node) {x y : Node} (h : Node.Rewraps x y) :
      Node.Rewraps (.group (before ++ x :: after)) (.group (before ++ y :: after))
  | form (label : Label) (before after : List Node) {x y : Node} (h : Node.Rewraps x y) :
      Node.Rewraps (.form label (before ++ x :: after)) (.form label (before ++ y :: after))

/-- In a piece of markup one piece is put into braces. A fragment tells its children apart by
whether they stand in braces, so its own children stay as they are. -/
inductive Jsx.Rewraps : Jsx → Jsx → Prop where
  | attr (span : Span) (opening : Opening) (before after : List Attr) (children : List Child)
      (closing : Option Closing) {attr attr' : Attr} (h : Attr.Rewraps attr attr') :
      Jsx.Rewraps (.element span opening (before ++ attr :: after) children closing)
        (.element span opening (before ++ attr' :: after) children closing)
  | child (span : Span) (opening : Opening) (attrs : List Attr) (before after : List Child)
      (closing : Option Closing) {child child' : Child} (h : Child.Rewraps child child') :
      Jsx.Rewraps (.element span opening attrs (before ++ child :: after) closing)
        (.element span opening attrs (before ++ child' :: after) closing)
  | fragment (span opening closing : Span) (before after : List Child) {child child' : Child}
      (h : Child.Rewraps child child') :
      Jsx.Rewraps (.fragment span opening closing (before ++ child :: after))
        (.fragment span opening closing (before ++ child' :: after))
  | wrap (span : Span) (opening : Opening) (hf : opening.name.isFragment = false)
      (attrs : List Attr) (before after : List Child) (closing : Option Closing) (braces : Span)
      (markup : Jsx) :
      Jsx.Rewraps (.element span opening attrs (before ++ .jsx markup :: after) closing)
        (.element span opening attrs (before ++ .container braces (.jsx markup) :: after) closing)

/-- In an attribute one piece of markup is put into braces, which must not be the value of a
model. -/
inductive Attr.Rewraps : Attr → Attr → Prop where
  | spread (dots : Span) {x y : Node} (h : Node.Rewraps x y) :
      Attr.Rewraps (.spread dots x) (.spread dots y)
  | container (span : Span) (name : AttrName) (braces : Span) {x y : Node}
      (h : Node.Rewraps x y) :
      Attr.Rewraps (.named span name (.container braces x)) (.named span name (.container braces y))
  | jsx (span : Span) (name : AttrName) {markup markup' : Jsx} (h : Jsx.Rewraps markup markup') :
      Attr.Rewraps (.named span name (.jsx markup)) (.named span name (.jsx markup'))
  | wrap (span : Span) {name : AttrName} (hm : name.isModel = false) (braces : Span)
      (markup : Jsx) :
      Attr.Rewraps (.named span name (.jsx markup))
        (.named span name (.container braces (.jsx markup)))

/-- In a child one piece of markup is put into braces. -/
inductive Child.Rewraps : Child → Child → Prop where
  | container (braces : Span) {x y : Node} (h : Node.Rewraps x y) :
      Child.Rewraps (.container braces x) (.container braces y)
  | spread (span : Span) {x y : Node} (h : Node.Rewraps x y) :
      Child.Rewraps (.spread span x) (.spread span y)
  | jsx {markup markup' : Jsx} (h : Jsx.Rewraps markup markup') :
      Child.Rewraps (.jsx markup) (.jsx markup')

end

section

variable {α β : Type} (before after : List α) {x y : α}

/-- Lists that differ in one place are related if the two items there are. -/
theorem forall₂_of_one {R : α → α → Prop} (hr : ∀ a, R a a) (h : R x y) :
    List.Forall₂ R (before ++ x :: after) (before ++ y :: after) :=
  List.rel_append (List.forall₂_same.mpr fun a _ => hr a)
    (.cons h (List.forall₂_same.mpr fun a _ => hr a))

/-- What is gathered from two lists is the same if it is from the items that differ. -/
theorem flatMap_of_one {f : α → List β} (h : f x = f y) :
    (before ++ x :: after).flatMap f = (before ++ y :: after).flatMap f := by
  simp only [List.flatMap_append, List.flatMap_cons, h]

end

/-- The outer shape of a node stays the same. -/
theorem Node.Rewraps.alike {x y : Node} (h : Node.Rewraps x y) : Node.Alike x y := by
  match h with
  | .paren span h => exact .paren span h.alike
  | .array span before after h =>
    exact .array span (forall₂_of_one before after .refl h.alike)
  | .spread dots h => exact .spread dots h.alike
  | .form label _ _ _ => exact .form label _ _
  | .object .. | .key .. | .value .. | .callee .. | .arg .. | .jsx _ | .group .. =>
    exact .other rfl rfl

/-- Two nodes bind the same as patterns and are the same as names. -/
structure Node.SameBinder (a b : Node) : Prop where
  patternIds : a.patternIds = b.patternIds
  ident : a.ident? = b.ident?

theorem Node.SameBinder.refl (node : Node) : node.SameBinder node := ⟨rfl, rfl⟩

/-- Patterns that bind the same one by one bind the same together. -/
theorem Node.patternIdsAll_congr {parts parts' : List Node}
    (h : List.Forall₂ Node.SameBinder parts parts') :
    Node.patternIdsAll parts = Node.patternIdsAll parts' := by
  induction h with
  | nil => rfl
  | cons hx _ ih => rw [Node.patternIdsAll, Node.patternIdsAll, hx.patternIds, ih]

/-- What a form binds as a pattern depends only on what its parts bind. -/
theorem Node.patternIds_form_congr (label : Label) {parts parts' : List Node}
    (h : List.Forall₂ Node.SameBinder parts parts') :
    (Node.form label parts).patternIds = (Node.form label parts').patternIds := by
  have hall := Node.patternIdsAll_congr h
  obtain ⟨form, span, data⟩ := label
  cases h with
  | nil => rfl
  | cons hx hs =>
    cases hs with
    | nil => cases form <;> first | rfl | exact hall | exact hx.patternIds
    | cons hy _ =>
      cases form <;> first | rfl | exact hall | exact hx.patternIds | exact hy.patternIds

/-- What a form declares can be told from its first two parts. -/
theorem Form.declaredIds_cons (form : Form) (node : Node) (nodes : List Node) :
    form.declaredIds (node :: nodes) =
      match form with
      | .variableDeclarator | .arrowFunctionExpression | .catchClause => node.patternIds
      | .functionDeclaration | .classDeclaration | .importSpecifier | .importDefaultSpecifier
      | .importNamespaceSpecifier => node.ident?.toList.map (·.id)
      | .parameter => (nodes.head?.map Node.patternIds).getD []
      | _ => [] := by
  cases form <;> first | rfl | (cases node <;> rfl) | (cases nodes <;> rfl)

/-- What a form declares depends only on what its parts bind. -/
theorem Form.declaredIds_congr (form : Form) {parts parts' : List Node}
    (h : List.Forall₂ Node.SameBinder parts parts') :
    form.declaredIds parts = form.declaredIds parts' := by
  cases h with
  | nil => rfl
  | cons hx hs =>
    have hsecond : ∀ {nodes nodes' : List Node}, List.Forall₂ Node.SameBinder nodes nodes' →
        nodes.head?.map Node.patternIds = nodes'.head?.map Node.patternIds := by
      rintro _ _ (_ | ⟨hy, _⟩)
      · rfl
      · exact congrArg some hy.patternIds
    rw [Form.declaredIds_cons, Form.declaredIds_cons, hx.patternIds, hx.ident, hsecond hs]

/-- A node binds as much as a pattern as before. -/
theorem Node.Rewraps.sameBinder {x y : Node} (h : Node.Rewraps x y) : x.SameBinder y := by
  match h with
  | .group before after h =>
    exact ⟨Node.patternIdsAll_congr (forall₂_of_one before after .refl h.sameBinder), rfl⟩
  | .form label before after h =>
    exact ⟨Node.patternIds_form_congr label (forall₂_of_one before after .refl h.sameBinder), rfl⟩
  | .paren .. | .array .. | .object .. | .spread .. | .key .. | .value .. | .callee .. | .arg ..
  | .jsx _ => exact ⟨rfl, rfl⟩

/-- What nodes declare is what each of them does, in their order. -/
theorem Node.declaredIdsAll_eq_flatMap_declaredIds (nodes : List Node) :
    Node.declaredIdsAll nodes = nodes.flatMap Node.declaredIds := by
  induction nodes with
  | nil => rfl
  | cons node nodes ih => rw [Node.declaredIdsAll, ih, List.flatMap_cons]

theorem Attr.declaredIdsAll_eq_flatMap_declaredIds (attrs : List Attr) :
    Attr.declaredIdsAll attrs = attrs.flatMap Attr.declaredIds := by
  induction attrs with
  | nil => rfl
  | cons attr attrs ih => rw [Attr.declaredIdsAll, ih, List.flatMap_cons]

theorem Child.declaredIdsAll_eq_flatMap_declaredIds (children : List Child) :
    Child.declaredIdsAll children = children.flatMap Child.declaredIds := by
  induction children with
  | nil => rfl
  | cons child children ih => rw [Child.declaredIdsAll, ih, List.flatMap_cons]

mutual

/-- A node declares what it declared before. -/
theorem Node.Rewraps.declaredIds_eq {x y : Node} (h : Node.Rewraps x y) :
    x.declaredIds = y.declaredIds := by
  match h with
  | .paren _ h => exact h.declaredIds_eq
  | .spread _ h => exact h.declaredIds_eq
  | .array _ before after h | .object _ before after h | .group before after h =>
    simp only [Node.declaredIds, Node.declaredIdsAll_eq_flatMap_declaredIds]
    exact flatMap_of_one before after h.declaredIds_eq
  | .key _ h => rw [Node.declaredIds, Node.declaredIds, h.declaredIds_eq]
  | .value _ h => rw [Node.declaredIds, Node.declaredIds, h.declaredIds_eq]
  | .callee _ _ _ h => rw [Node.declaredIds, Node.declaredIds, h.declaredIds_eq]
  | .arg _ _ _ before after h =>
    simp only [Node.declaredIds, Node.declaredIdsAll_eq_flatMap_declaredIds]
    rw [flatMap_of_one before after h.declaredIds_eq]
  | .jsx h => exact h.declaredIds_eq
  | .form label before after h =>
    simp only [Node.declaredIds, Node.declaredIdsAll_eq_flatMap_declaredIds]
    rw [flatMap_of_one before after h.declaredIds_eq,
      Form.declaredIds_congr label.form (forall₂_of_one before after .refl h.sameBinder)]

/-- Rewrapped markup declares the same. -/
theorem Jsx.Rewraps.declaredIds_eq {markup markup' : Jsx} (h : Jsx.Rewraps markup markup') :
    markup.declaredIds = markup'.declaredIds := by
  match h with
  | .attr _ _ before after _ _ h =>
    simp only [Jsx.declaredIds, Attr.declaredIdsAll_eq_flatMap_declaredIds]
    rw [flatMap_of_one before after h.declaredIds_eq]
  | .child _ _ _ before after _ h =>
    simp only [Jsx.declaredIds, Child.declaredIdsAll_eq_flatMap_declaredIds]
    rw [flatMap_of_one before after h.declaredIds_eq]
  | .fragment _ _ _ before after h =>
    simp only [Jsx.declaredIds, Child.declaredIdsAll_eq_flatMap_declaredIds]
    rw [flatMap_of_one before after h.declaredIds_eq]
  | .wrap _ _ _ _ before after _ _ _ =>
    simp only [Jsx.declaredIds, Child.declaredIdsAll_eq_flatMap_declaredIds]
    exact congrArg _ (flatMap_of_one before after rfl)

theorem Attr.Rewraps.declaredIds_eq {attr attr' : Attr} (h : Attr.Rewraps attr attr') :
    attr.declaredIds = attr'.declaredIds := by
  match h with
  | .spread _ h => exact h.declaredIds_eq
  | .container _ _ _ h => exact h.declaredIds_eq
  | .jsx _ _ h => exact h.declaredIds_eq
  | .wrap .. => rfl

theorem Child.Rewraps.declaredIds_eq {child child' : Child} (h : Child.Rewraps child child') :
    child.declaredIds = child'.declaredIds := by
  match h with
  | .container _ h => exact h.declaredIds_eq
  | .spread _ h => exact h.declaredIds_eq
  | .jsx h => exact h.declaredIds_eq

end

/-- An attribute is as faulty as before. -/
theorem Attr.Rewraps.faulty {attr attr' : Attr} (h : Attr.Rewraps attr attr') {isComponent : Bool}
    (hf : attr.Faulty isComponent) : attr'.Faulty isComponent := by
  match h with
  | .spread _ _ => exact hf
  | .container _ _ _ h => exact (directiveFault_iff_of_alike (.some h.alike)).mp hf
  | .jsx _ _ _ => exact (directiveFault_iff_of_alike (.some (.other rfl rfl))).mp hf
  | .wrap _ hm _ _ =>
    rcases hf with ⟨hd, hn, _⟩ | ⟨hd, hn, hc⟩ | ⟨hd, hn, hv⟩ | ⟨hd, several, hn, hv⟩
    · rw [AttrName.isModel, hd, hn] at hm
      cases hm
    · exact .notOnComponent hd hn hc
    · exact .notNested hd hn hv
    · exact .notAssignable hd several hn hv

section

variable {options : Options}

/-- There are no faults in a list of nodes if there are none in front of a node, in it, and behind
it. -/
theorem Node.sound_markupsAll_iff {before after : List Node} {node : Node} :
    Sound options (Node.markupsAll (before ++ node :: after)) ↔
      Sound options (Node.markupsAll before) ∧ Sound options node.markups ∧
        Sound options (Node.markupsAll after) := by
  simp only [Node.markupsAll_eq_flatMap, sound_flatMap_iff]

theorem Attr.sound_markupsAll_iff {before after : List Attr} {attr : Attr} :
    Sound options (Attr.markupsAll (before ++ attr :: after)) ↔
      Sound options (Attr.markupsAll before) ∧ Sound options attr.markups ∧
        Sound options (Attr.markupsAll after) := by
  simp only [Attr.markupsAll_eq_flatMap, sound_flatMap_iff]

theorem Child.sound_markupsAll_iff {before after : List Child} {child : Child} :
    Sound options (Child.markupsAll (before ++ child :: after)) ↔
      Sound options (Child.markupsAll before) ∧ Sound options child.markups ∧
        Sound options (Child.markupsAll after) := by
  simp only [Child.markupsAll_eq_flatMap, sound_flatMap_iff]

end

mutual

/-- If no markup is faulty after a piece was put into braces, none was before. -/
theorem Node.Rewraps.sound {options : Options} {x y : Node} (h : Node.Rewraps x y)
    (hs : Sound options y.markups) : Sound options x.markups := by
  match h with
  | .paren _ h => exact h.sound hs
  | .spread _ h => exact h.sound hs
  | .array .. | .object .. | .group .. | .form .. =>
    obtain ⟨hb, hy, ha⟩ := Node.sound_markupsAll_iff.mp hs
    exact Node.sound_markupsAll_iff.mpr ⟨hb, ‹Node.Rewraps _ _›.sound hy, ha⟩
  | .key _ h =>
    obtain ⟨hk, hv⟩ := sound_append_iff.mp hs
    exact sound_append_iff.mpr ⟨h.sound hk, hv⟩
  | .value _ h =>
    obtain ⟨hk, hv⟩ := sound_append_iff.mp hs
    exact sound_append_iff.mpr ⟨hk, h.sound hv⟩
  | .callee _ _ _ h =>
    obtain ⟨hc, ha⟩ := sound_append_iff.mp hs
    exact sound_append_iff.mpr ⟨h.sound hc, ha⟩
  | .arg _ _ _ _ _ h =>
    obtain ⟨hc, hargs⟩ := sound_append_iff.mp hs
    obtain ⟨hb, hy, ha⟩ := Node.sound_markupsAll_iff.mp hargs
    exact sound_append_iff.mpr ⟨hc, Node.sound_markupsAll_iff.mpr ⟨hb, h.sound hy, ha⟩⟩
  | .jsx h => exact h.sound hs

/-- Markup is sound if it is sound after being rewrapped. -/
theorem Jsx.Rewraps.sound {options : Options} {markup markup' : Jsx}
    (h : Jsx.Rewraps markup markup') (hs : Sound options markup'.markups) :
    Sound options markup.markups := by
  match h with
  | .attr _ _ before after _ _ h =>
    rw [Jsx.markups, sound_cons_iff, sound_append_iff, Attr.sound_markupsAll_iff,
      Jsx.faulty_element_iff] at hs ⊢
    obtain ⟨hself, ⟨hb, hattr, ha⟩, hchildren⟩ := hs
    refine ⟨fun hf => hself (hf.imp_right ?_), ⟨hb, h.sound hattr, ha⟩, hchildren⟩
    simp only [List.mem_append, List.mem_cons]
    rintro ⟨other, hm | rfl | hm, hother⟩
    · exact ⟨other, Or.inl hm, hother⟩
    · exact ⟨_, Or.inr (Or.inl rfl), h.faulty hother⟩
    · exact ⟨other, Or.inr (Or.inr hm), hother⟩
  | .child _ _ _ before after _ h =>
    rw [Jsx.markups, sound_cons_iff, sound_append_iff, Child.sound_markupsAll_iff,
      Jsx.faulty_element_iff] at hs ⊢
    obtain ⟨hself, hattrs, hb, hchild, ha⟩ := hs
    exact ⟨hself, hattrs, hb, h.sound hchild, ha⟩
  | .fragment _ _ _ before after h =>
    rw [Jsx.markups, sound_cons_iff, Child.sound_markupsAll_iff] at hs ⊢
    obtain ⟨_, hb, hchild, ha⟩ := hs
    exact ⟨Jsx.not_faulty_fragment, hb, h.sound hchild, ha⟩
  | .wrap _ _ _ _ before after _ _ _ =>
    rw [Jsx.markups, sound_cons_iff, sound_append_iff, Child.sound_markupsAll_iff,
      Jsx.faulty_element_iff] at hs ⊢
    exact hs

theorem Attr.Rewraps.sound {options : Options} {attr attr' : Attr} (h : Attr.Rewraps attr attr')
    (hs : Sound options attr'.markups) : Sound options attr.markups := by
  match h with
  | .spread _ h => exact h.sound hs
  | .container _ _ _ h => exact h.sound hs
  | .jsx _ _ h => exact h.sound hs
  | .wrap .. => exact hs

theorem Child.Rewraps.sound {options : Options} {child child' : Child}
    (h : Child.Rewraps child child') (hs : Sound options child'.markups) :
    Sound options child.markups := by
  match h with
  | .container _ h => exact h.sound hs
  | .spread _ h => exact h.sound hs
  | .jsx h => exact h.sound hs

end

/-- In a program one piece of markup is put into braces. -/
inductive Program.Rewraps (program : Program) : Program → Prop where
  | body {before after : List Node} {x y : Node} (h : Node.Rewraps x y)
      (hb : program.body = before ++ x :: after) :
      Rewraps program { program with body := before ++ y :: after }

namespace Program.Rewraps

variable {program program' : Program}

/-- A program declares what it declared before. -/
theorem ofProgram_eq (h : program.Rewraps program') :
    Bindings.ofProgram program' = Bindings.ofProgram program := by
  obtain ⟨h, hb⟩ := h
  rw [Bindings.ofProgram, Bindings.ofProgram, hb, Node.declaredIdsAll_eq_flatMap_declaredIds,
    Node.declaredIdsAll_eq_flatMap_declaredIds, flatMap_of_one _ _ h.declaredIds_eq]

/-- Nothing but the body changes. -/
theorem with_body_eq (h : program.Rewraps program') (body : List Node) :
    { program' with body := body } = { program with body := body } := by
  obtain ⟨_, _⟩ := h
  rfl

/-- A program is sound if it is sound after being rewrapped. -/
theorem sound {options : Options} (h : program.Rewraps program')
    (hs : Sound options (Node.markupsAll program'.body)) :
    Sound options (Node.markupsAll program.body) := by
  obtain ⟨h, hb⟩ := h
  obtain ⟨hbefore, hnode, hafter⟩ := Node.sound_markupsAll_iff.mp hs
  rw [hb]
  exact Node.sound_markupsAll_iff.mpr ⟨hbefore, h.sound hnode, hafter⟩

end Program.Rewraps

end JsxVNode
