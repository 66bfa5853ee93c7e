import JsxVNode.Proofs.Compile.Uniform
import JsxVNode.Proofs.Tree.Rewrap

/-!
# Exchanging a part of an element

What an element compiles to depends on a child only through the items that the child
compiles to, unless the element is a fragment, and on the value of an attribute only
through what the value compiles to, what it says as the type of an input, and for a
model whether it stands in braces. If one part takes the place of another, the element
compiles to the same node, with the effect of the one in place of the effect of the
other.
-/

namespace JsxVNode

namespace Compile

/-- A resolved tag is a fragment exactly if its name says so. -/
theorem isFragment_resolveTag (ctx : Context) (name : TagName) :
    Yields (resolveTag ctx name) fun tag => tag.isFragment = name.isFragment := by
  match name with
  | .path (.ident name) =>
    unfold resolveTag resolveIdent TagName.isFragment
    dsimp only
    split
    · rename_i hi
      refine yields_pure (decide_eq_false ?_).symm
      intro hn
      rw [hn] at hi
      exact absurd hi (by decide +kernel)
    · split
      · rename_i hn
        exact yields_bind_of_forall fun _ => yields_pure (decide_eq_true hn).symm
      · rename_i hn
        have hfalse : false = decide (name.name = Tag.fragment) := (decide_eq_false hn).symm
        split
        · exact yields_pure hfalse
        · split
          · exact yields_pure hfalse
          · exact yields_bind_of_forall fun _ => yields_pure hfalse
  | .path (.member span object property) => exact yields_pure rfl
  | .qualified name => exact yields_throw

/-- The first list of attributes tells the type of an input, and the second only if the first does
not. -/
theorem inputType?_append (attrs attrs' : List Attr) :
    inputType? (attrs ++ attrs') = (inputType? attrs).or (inputType? attrs') := by
  induction attrs with
  | nil => rfl
  | cons attr attrs ih =>
    match attr with
    | .named _ (.plain name) value =>
      rw [List.cons_append, inputType?, inputType?, ih]
      split <;> rfl
    | .named _ (.qualified _) _ => exact ih
    | .spread .. => exact ih

/-- A directive says nothing about the type of an input. -/
theorem inputType?_of_isDirectiveName (span : Span) {name : AttrName} (value : AttrValue)
    (h : isDirectiveName name.spelling = true) : inputType? [.named span name value] = none := by
  cases name with
  | plain name =>
    have htype : name.name ≠ "type" := by
      intro htype
      rw [AttrName.spelling, htype] at h
      cases h
    rw [inputType?, if_neg htype, inputType?]
  | qualified name => rfl

variable {ctx : Context} {span : Span} {name : AttrName} {attrValue attrValue' : AttrValue}
  {value : Option Node} {tag : ResolvedTag} {attrs attrs' : List Attr} {state : PropsState}

/-- The other attributes matter only for the type of an input. -/
theorem directiveHandle_congr (directive : String) (ht : inputType? attrs = inputType? attrs') :
    directiveHandle directive tag attrs = directiveHandle directive tag attrs' := by
  unfold directiveHandle modelExport
  rw [ht]

/-- That a value stands in braces matters only for a model. -/
theorem parseDirective_congr (ht : inputType? attrs = inputType? attrs')
    (hb : (DirectiveName.ofAttr name).name = "model" →
      attrValue.isContainer = attrValue'.isContainer) :
    parseDirective span name attrValue value tag attrs =
      parseDirective span name attrValue' value tag attrs' := by
  have hcheck : ((DirectiveName.ofAttr name).name = "model" ∧ (!attrValue.isContainer) = true) =
      ((DirectiveName.ofAttr name).name = "model" ∧ (!attrValue'.isContainer) = true) :=
    propext (and_congr_right fun hn => by rw [hb hn])
  rw [parseDirective_eq, parseDirective_eq]
  simp only [hcheck, directiveHandle_congr _ ht]

/-- Sorting an attribute in looks at the type among all attributes, and at the value only to see if
a model is in braces. -/
theorem applyAttr_congr (ht : inputType? attrs = inputType? attrs')
    (hb : name.isModel = true → attrValue.isContainer = attrValue'.isContainer) :
    applyAttr ctx span name attrValue value tag attrs state =
      applyAttr ctx span name attrValue' value tag attrs' state := by
  rw [applyAttr_eq, applyAttr_eq]
  dsimp only
  split
  · rfl
  · split
    · rename_i hd
      have hb' : (DirectiveName.ofAttr name).name = "model" →
          attrValue.isContainer = attrValue'.isContainer := by
        intro hn
        apply hb
        rw [AttrName.isModel, hd, hn]
        rfl
      rw [applyDirective_eq, applyDirective_eq, parseDirective_congr ht hb']
    · rfl

/-- Unless it is a fragment, an element looks only at the items of its children. -/
theorem finishElement_congr {children children' : Children} {props : ElementProps}
    (hi : children.items = children'.items)
    (hf : children = children' ∨ tag.isFragment = false) :
    finishElement ctx span tag children props = finishElement ctx span tag children' props := by
  rcases hf with rfl | hf
  · rfl
  · have hflag : elementFlag tag children props = elementFlag tag children' props := by
      simp only [elementFlag, hf, Bool.false_eq_true, if_false]
    unfold finishElement
    rw [hflag, hi]

end Compile

open Compile

/-- The attributes of two lists are sorted in one list after the other. -/
theorem Attr.compileAll_append (ctx : Context) (tag : ResolvedTag) (all : List Attr)
    (state : PropsState) (attrs attrs' : List Attr) :
    Attr.compileAll ctx tag all state (attrs ++ attrs') =
      Attr.compileAll ctx tag all state attrs >>= fun state =>
        Attr.compileAll ctx tag all state attrs' := by
  induction attrs generalizing state with
  | nil => exact (pure_bind _ _).symm
  | cons attr attrs ih =>
    rw [List.cons_append, Attr.compileAll, Attr.compileAll, bind_assoc]
    exact congrArg _ (funext ih)

/-- All the attributes matter to one of them only for the type of an input. -/
theorem Attr.compileAll_congr {ctx : Context} {tag : ResolvedTag} {all all' : List Attr}
    (ht : inputType? all = inputType? all') (state : PropsState) (attrs : List Attr) :
    Attr.compileAll ctx tag all state attrs = Attr.compileAll ctx tag all' state attrs := by
  have hattr (state : PropsState) (attr : Attr) :
      attr.compile ctx tag all state = attr.compile ctx tag all' state := by
    cases attr with
    | named span name value =>
      rw [Attr.compile, Attr.compile]
      exact congrArg _ (funext fun _ => applyAttr_congr ht fun _ => rfl)
    | spread dots operand => rfl
  induction attrs generalizing state with
  | nil => rfl
  | cons attr attrs ih =>
    rw [Attr.compileAll, Attr.compileAll, hattr]
    exact congrArg _ (funext ih)

theorem Children.append_assoc (a b c : Children) :
    (a.append b).append c = a.append (b.append c) := by
  simp only [Children.append, List.append_assoc, Bool.or_assoc]

/-- The children of two lists are compiled one list after the other. -/
theorem Child.compileAll_append (ctx : Context) (children children' : List Child) :
    Child.compileAll ctx (children ++ children') = (do
      let first ← Child.compileAll ctx children
      let rest ← Child.compileAll ctx children'
      return first.append rest) := by
  induction children with
  | nil =>
    rw [List.nil_append, Child.compileAll, pure_bind]
    exact (bind_pure _).symm
  | cons child children ih =>
    simp only [List.cons_append, Child.compileAll, ih, bind_assoc, pure_bind,
      Children.append_assoc]

variable {ctx : Context} {e e' : Effect}

/-- The exchange of a child, with the steps that come after the children. -/
theorem Child.exchanges_compileAll {β : Type} (before after : List Child) {child child' : Child}
    {first first' : Children} {f : Children → Compile β}
    (h : Gives ctx (child.compile ctx) first e) (h' : Gives ctx (child'.compile ctx) first' e')
    (hf : ∀ children, Uniform ctx (f children))
    (heq : ∀ left right : Children, f (left.append (first.append right)) =
      f (left.append (first'.append right))) :
    Exchanges ctx e e' (Child.compileAll ctx (before ++ child :: after) >>= f)
      (Child.compileAll ctx (before ++ child' :: after) >>= f) := by
  have hsteps := steps_uniform ctx
  simp only [Child.compileAll_append, Child.compileAll, bind_assoc, pure_bind]
  refine Exchanges.bind_right (Child.steps_compileAll hsteps ctx before) (fun left => ?_) ?_
  · exact (Child.steps_compile hsteps ctx child).bind fun _ =>
      (Child.steps_compileAll hsteps ctx after).bind fun _ => hf _
  · intro left _ _
    refine exchanges_bind h h' (Child.steps_compile hsteps ctx child) (fun _ => ?_) ?_
    · exact (Child.steps_compileAll hsteps ctx after).bind fun _ => hf _
    · exact congrArg _ (funext fun right => heq left right)

/-- The exchange of a child of an element. -/
theorem Jsx.exchanges_element_child (span : Span) (opening : Opening) (attrs : List Attr)
    (before after : List Child) (closing : Option Closing) {child child' : Child}
    {first first' : Children} (h : Gives ctx (child.compile ctx) first e)
    (h' : Gives ctx (child'.compile ctx) first' e') (hi : first.items = first'.items)
    (hf : first = first' ∨ opening.name.isFragment = false) :
    Exchanges ctx e e'
      ((Jsx.element span opening attrs (before ++ child :: after) closing).compile ctx)
      ((Jsx.element span opening attrs (before ++ child' :: after) closing).compile ctx) := by
  have hsteps := steps_uniform ctx
  have hrest (tag : ResolvedTag) (children : Children) : Uniform ctx (do
      let state ← Attr.compileAll ctx tag attrs (.new ctx.options) attrs
      let props ← finishProps state
      finishElement ctx span tag children props) :=
    (Attr.steps_compileAll hsteps ctx tag attrs attrs _).bind fun state =>
      (hsteps.finishProps state).bind fun props => hsteps.finishElement ctx span tag children props
  refine Exchanges.bind_right (hsteps.resolveTag ctx opening.name) (fun tag => ?_) ?_
  · exact (Child.steps_compileAll hsteps ctx _).bind (hrest tag)
  · intro tag _ htag
    refine Child.exchanges_compileAll before after h h' (hrest tag) fun left right => ?_
    refine congrArg _ (funext fun state => congrArg _ (funext fun props => ?_))
    apply finishElement_congr
    · simp only [Children.append, hi]
    · rw [htag.of_yields (isFragment_resolveTag ctx opening.name)]
      exact hf.imp (fun heq => by rw [heq]) id

/-- The exchange of a child of a fragment. -/
theorem Jsx.exchanges_fragment_child (span opening closing : Span) (before after : List Child)
    {child child' : Child} {first : Children} (h : Gives ctx (child.compile ctx) first e)
    (h' : Gives ctx (child'.compile ctx) first e') :
    Exchanges ctx e e'
      ((Jsx.fragment span opening closing (before ++ child :: after)).compile ctx)
      ((Jsx.fragment span opening closing (before ++ child' :: after)).compile ctx) :=
  Child.exchanges_compileAll before after h h'
    (fun children => (steps_uniform ctx).finishFragment ctx span children) fun _ _ => rfl

/-- The exchange of the value of an attribute. -/
theorem Attr.exchanges_named (span : Span) {name : AttrName} {value value' : AttrValue}
    {compiled : Option Node} (h : Gives ctx (value.compile ctx) compiled e)
    (h' : Gives ctx (value'.compile ctx) compiled e')
    (hb : name.isModel = true → value.isContainer = value'.isContainer) (tag : ResolvedTag)
    (all : List Attr) (state : PropsState) :
    Exchanges ctx e e' ((Attr.named span name value).compile ctx tag all state)
      ((Attr.named span name value').compile ctx tag all state) :=
  exchanges_bind h h' (AttrValue.steps_compile (steps_uniform ctx) ctx value)
    (fun _ => (steps_uniform ctx).applyAttr _ _ _ _ _ _ _ _) (applyAttr_congr rfl hb)

/-- The exchange of an attribute of an element. -/
theorem Jsx.exchanges_element_attr (span : Span) (opening : Opening) (before after : List Attr)
    (children : List Child) (closing : Option Closing) {attr attr' : Attr}
    (h : ∀ tag all state, Exchanges ctx e e' (attr.compile ctx tag all state)
      (attr'.compile ctx tag all state))
    (ht : inputType? [attr] = inputType? [attr']) :
    Exchanges ctx e e'
      ((Jsx.element span opening (before ++ attr :: after) children closing).compile ctx)
      ((Jsx.element span opening (before ++ attr' :: after) children closing).compile ctx) := by
  have hsteps := steps_uniform ctx
  have htype : inputType? (before ++ attr :: after) = inputType? (before ++ attr' :: after) := by
    rw [← List.singleton_append, inputType?_append, inputType?_append, ht, ← inputType?_append,
      ← inputType?_append, List.singleton_append]
  have hrest (tag : ResolvedTag) (items : Children) (state : PropsState) : Uniform ctx (do
      let props ← finishProps state
      finishElement ctx span tag items props) :=
    (hsteps.finishProps state).bind fun props => hsteps.finishElement ctx span tag items props
  have hall (tag : ResolvedTag) (all attrs : List Attr) (state : PropsState) :
      Uniform ctx (Attr.compileAll ctx tag all state attrs) :=
    Attr.steps_compileAll hsteps ctx tag all attrs state
  have hattrs (tag : ResolvedTag) :
      Exchanges ctx e e'
        (Attr.compileAll ctx tag (before ++ attr :: after) (.new ctx.options)
          (before ++ attr :: after))
        (Attr.compileAll ctx tag (before ++ attr' :: after) (.new ctx.options)
          (before ++ attr' :: after)) := by
    have hone (state : PropsState) :
        Uniform ctx (attr.compile ctx tag (before ++ attr :: after) state) :=
      Attr.steps_compile hsteps ctx tag _ attr state
    rw [← Attr.compileAll_congr htype, Attr.compileAll_append, Attr.compileAll_append]
    simp only [Attr.compileAll]
    refine Exchanges.bind_right (hall tag _ before _)
      (fun state => (hone state).bind fun _ => hall tag _ after _) fun state _ _ => ?_
    exact (h tag _ state).bind (hone state) fun _ => hall tag _ after _
  refine Exchanges.bind_right (hsteps.resolveTag ctx opening.name) (fun tag => ?_) ?_
  · exact (Child.steps_compileAll hsteps ctx children).bind fun items =>
      (hall tag _ _ _).bind (hrest tag items)
  · intro tag _ _
    refine Exchanges.bind_right (Child.steps_compileAll hsteps ctx children)
      (fun items => (hall tag _ _ _).bind (hrest tag items)) fun items _ _ => ?_
    exact (hattrs tag).bind (hall tag _ _ _) (hrest tag items)

end JsxVNode
