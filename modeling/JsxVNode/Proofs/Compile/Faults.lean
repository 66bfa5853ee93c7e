import JsxVNode.Proofs.Compile.Directive
import JsxVNode.Proofs.Tree.Faults
import JsxVNode.Proofs.Tree.Markup

/-!
# When compiling fails

Compiling a piece of markup ends in a fault exactly if the piece or one of the pieces
compiled with it is faulty. The checks are made on values that have been compiled
already; a compiled value is alike to the value it comes from, so that the checks
give what they would have given before.
-/

namespace JsxVNode

/-- The assignment target is found exactly for the expressions that can be assigned to. -/
theorem Node.assignTarget?_eq_none_iff (node : Node) :
    node.assignTarget? = none ↔ ¬ node.Assignable := by
  fun_induction Node.unparen node with
  | case1 span body ih => rw [Node.assignable_paren_iff, ← ih, Node.assignTarget?, Node.unparen,
      Node.assignTarget?]
  | case2 node h =>
    cases node with
    | paren span body => exact absurd rfl (h span body)
    | ident name => exact iff_of_false (by rintro ⟨⟩) (not_not_intro (.ident name))
    | form label parts =>
      rw [Node.assignable_form_iff, Node.assignTarget?, Node.unparen]
      · by_cases hl : label.form = .memberExpression ∨ label.form = .superPropExpression
        · simp [hl]
        · simp [hl]
      · exact h
    | _ => exact iff_of_true rfl (by rintro ⟨⟩)

/-- The first element of an entry is the value it binds. -/
theorem DirectiveEntry.value_ofElements (keepPlace : Bool) (modifiers : NameSet)
    (elements : List Node) :
    (DirectiveEntry.ofElements keepPlace modifiers elements).value =
      Node.firstBound? elements := by
  have hv : (Node.elementAt? elements 0).bind Node.elementExpr? = Node.firstBound? elements := by
    unfold Node.elementAt? Node.firstBound?
    rw [List.head?_eq_getElem?]
    split
    · rename_i he
      rw [he]
      rfl
    · rfl
  rw [← hv]
  unfold DirectiveEntry.ofElements
  dsimp only
  split
  · rfl
  · split
    · rfl
    · split <;> rfl

/-- Nested arrays are read off one element after the other, and all of them have to be arrays. -/
theorem nestedElements?_cons (element : Node) (elements : List Node) :
    nestedElements? (element :: elements) =
      element.innerElements?.bind fun inner => (nestedElements? elements).map (inner :: ·) := by
  rw [nestedElements?, Node.innerElements?]
  cases element.elementExpr? with
  | none => rfl
  | some expr =>
    change (expr.arrayElements?.bind fun inner => _) = expr.arrayElements?.bind fun inner => _
    cases expr.arrayElements? with
    | none => rfl
    | some inner => cases nestedElements? elements <;> rfl

/-- Arrays are not nested as soon as one element is no array. -/
theorem nestedElements?_eq_none_iff {elements : List Node} :
    nestedElements? elements = none ↔ ∃ element ∈ elements, element.innerElements? = none := by
  induction elements with
  | nil => simp [nestedElements?]
  | cons element elements ih =>
    rw [nestedElements?_cons, List.exists_mem_cons_iff, ← ih]
    cases element.innerElements? with
    | none => simp
    | some inner => simp

/-- What is read off each nested array can be read off the elements. -/
theorem map_of_nestedElements? (f : List Node → Option Node) {elements : List Node}
    {entries : List (List Node)} (h : nestedElements? elements = some entries) :
    entries.map f = elements.map fun element => element.innerElements?.bind f := by
  induction elements generalizing entries with
  | nil =>
    cases h
    rfl
  | cons element elements ih =>
    rw [nestedElements?_cons] at h
    obtain ⟨inner, hi, hm⟩ := Option.bind_eq_some_iff.mp h
    obtain ⟨rest, hr, rfl⟩ := Option.map_eq_some_iff.mp hm
    rw [List.map_cons, List.map_cons, ih hr, hi]
    rfl

/-- What a directive binds depends on its name and on whether its value is an array. -/
theorem directiveEntries_eq (name : DirectiveName) (keepPlace : Bool)
    (value : Option Node) (fault : Fault) :
    directiveEntries name keepPlace value fault =
      match value.bind Node.arrayElements? with
      | some elements =>
        if name.name = "models" then
          match nestedElements? elements with
          | some entries => .ok (entries.map (.ofElements keepPlace name.modifiers))
          | none => .error fault
        else
          .ok [.ofElements keepPlace name.modifiers elements]
      | none =>
        .ok [⟨value, if name.name = "model" ∧ keepPlace then [none] else [], name.modifiers⟩] := rfl

/-- Only several models that are not given by nested arrays have no entries. -/
theorem directiveEntries_error_iff {name : DirectiveName} {keepPlace : Bool}
    {value : Option Node} {fault : Fault} :
    (∃ f, directiveEntries name keepPlace value fault = .error f) ↔
      name.name = "models" ∧ NotNested value := by
  simp only [directiveEntries_eq]
  unfold NotNested
  cases value.bind Node.arrayElements? with
  | none => simp
  | some elements =>
    by_cases hn : name.name = "models"
    · simp only [hn, if_true, Option.mem_some_iff, exists_eq_left', true_and,
        ← nestedElements?_eq_none_iff]
      cases nestedElements? elements <;> simp
    · simp [hn]

/-- The values of a directive that was taken apart are the bound values. -/
theorem values_ofEntries {name : DirectiveName} {keepPlace : Bool} {value : Option Node}
    {fault : Fault} {entries : List DirectiveEntry}
    (h : directiveEntries name keepPlace value fault = .ok entries) :
    (ParsedDirective.ofEntries name value entries).values =
      boundValues (name.name = "models") value := by
  rw [directiveEntries_eq] at h
  unfold boundValues ParsedDirective.ofEntries
  cases ha : value.bind Node.arrayElements? with
  | none =>
    rw [ha] at h
    cases h
    rfl
  | some elements =>
    rw [ha] at h
    dsimp only at h ⊢
    by_cases hn : name.name = "models"
    · rw [if_pos hn] at h
      rw [decide_eq_true hn]
      split at h
      · rename_i inner hi
        cases h
        have hm := map_of_nestedElements? Node.firstBound? hi
        cases elements with
        | nil =>
          cases hi
          rfl
        | cons element elements =>
          cases inner with
          | nil => cases hm
          | cons first rest => simpa [Function.comp_def, DirectiveEntry.value_ofElements] using hm
      · cases h
    · rw [if_neg hn] at h
      rw [decide_eq_false hn]
      cases h
      simp [DirectiveEntry.value_ofElements]

/-- Models fail exactly if a value cannot be assigned to. -/
theorem modelPropsOf_error_iff {onComponent : Bool} {fault : Fault} {values : List (Option Node)}
    {args : List (Option Node)} {modifiers : List NameSet} :
    (∃ f, modelPropsOf onComponent fault values args modifiers = .error f) ↔
      ∃ value ∈ values, ∀ node ∈ value, ¬ node.Assignable := by
  induction values generalizing args modifiers with
  | nil => simp [modelPropsOf]
  | cons value values ih =>
    rw [List.exists_mem_cons_iff, ← @ih args.tail modifiers.tail]
    cases value with
    | none => simp [modelPropsOf]
    | some value =>
      simp only [modelPropsOf, Option.mem_some_iff, forall_eq', ← Node.assignTarget?_eq_none_iff]
      cases value.assignTarget? with
      | none => simp
      | some target =>
        cases modelPropsOf onComponent fault values args.tail modifiers.tail <;>
          simp [Except.map]

namespace Compile

/-- A directive that was taken apart has the bound values. -/
theorem values_parseDirective (span : Span) (name : AttrName) (attrValue : AttrValue)
    (value : Option Node) (tag : ResolvedTag) (attrs : List Attr) :
    Yields (parseDirective span name attrValue value tag attrs) fun parsed =>
      parsed.values = boundValues ((DirectiveName.ofAttr name).name = "models") value := by
  intro s parsed s' h
  obtain ⟨entries, he, hp⟩ := returns_parseDirective h
  rw [← values_ofEntries he]
  rcases hp with ⟨_, _, rfl⟩ | ⟨_, _, _, rfl⟩ <;> rfl

/-- A directive fails for its own faults alone. -/
theorem fails_applyDirective_iff {span : Span} {name : AttrName} {attrValue : AttrValue}
    {value : Option Node} {tag : ResolvedTag} {attrs : List Attr} {state : PropsState}
    {s : Session} (hd : isDirectiveName name.spelling = true) :
    Fails (applyDirective span name attrValue value tag attrs state) s ↔
      DirectiveFault tag.isComponent name attrValue.isContainer value := by
  rw [applyDirective_eq, fails_bind_iff_of_yields
    (P := ∃ several : Bool, (DirectiveName.ofAttr name).name =
      (if several then "models" else "model") ∧ BindsUnassignable several value),
    fails_parseDirective_iff, directiveEntries_error_iff]
  · constructor
    · rintro ((⟨hn, hb⟩ | ⟨hn, hc⟩ | ⟨hn, hv⟩) | ⟨several, hn, hv⟩)
      · exact .noExpression hd hn hb
      · exact .notOnComponent hd hn hc
      · exact .notNested hd hn hv
      · exact .notAssignable hd several hn hv
    · rintro (⟨_, hn, hb⟩ | ⟨_, hn, hc⟩ | ⟨_, hn, hv⟩ | ⟨_, several, hn, hv⟩)
      · exact Or.inl (Or.inl ⟨hn, hb⟩)
      · exact Or.inl (Or.inr (Or.inl ⟨hn, hc⟩))
      · exact Or.inl (Or.inr (Or.inr ⟨hn, hv⟩))
      · exact Or.inr ⟨several, hn, hv⟩
  · intro t parsed t' hr
    have hn := name_parseDirective span name attrValue value tag attrs _ _ _ hr
    have hv := values_parseDirective span name attrValue value tag attrs _ _ _ hr
    have hm : Fails (do
          let models ← ofExcept (parsed.models span)
          return (state.addParsed parsed value).addModels models) t' ↔
        BindsUnassignable ((DirectiveName.ofAttr name).name = "models") value := by
      rw [fails_bind_iff_of_yields (P := False) (fun _ _ _ _ => by simp only [not_fails_pure]),
        fails_ofExcept_iff, or_false, ParsedDirective.models, modelPropsOf_error_iff, hv,
        BindsUnassignable]
    rw [ParsedDirective.isModel, hn]
    generalize (DirectiveName.ofAttr name).name = base at hm ⊢
    by_cases hmodels : base = "models"
    · subst hmodels
      simpa [Bool.exists_bool] using hm
    · by_cases hmodel : base = "model"
      · subst hmodel
        simpa [Bool.exists_bool] using hm
      · by_cases hs : base = "slots"
        · simp [hs]
        · simp [hs, hmodel, hmodels]

/-- Sorting in an attribute fails exactly for the faults of a directive. -/
theorem fails_applyAttr_iff {ctx : Context} {span : Span} {name : AttrName}
    {attrValue : AttrValue} {value : Option Node} {tag : ResolvedTag} {attrs : List Attr}
    {state : PropsState} {s : Session} :
    Fails (applyAttr ctx span name attrValue value tag attrs state) s ↔
      DirectiveFault tag.isComponent name attrValue.isContainer value := by
  have hnone (h : isDirectiveName name.spelling = false) :
      ¬ DirectiveFault tag.isComponent name attrValue.isContainer value := by
    intro hf
    rw [hf.isDirectiveName] at h
    cases h
  rw [applyAttr_eq]
  dsimp only
  split
  · rename_i ht
    have hd : isDirectiveName name.spelling = false := by
      rcases ht.2 with h | h <;> rw [h] <;> decide
    exact iff_of_false (not_fails_bind not_fails_request fun _ _ => not_fails_pure) (hnone hd)
  · split
    · rename_i hd
      exact fails_applyDirective_iff hd
    · rename_i hd
      exact iff_of_false not_fails_pure (hnone (Bool.eq_false_iff.mpr hd))

/-- Only a tag with a colon is a fault. -/
theorem fails_resolveTag_iff {ctx : Context} {name : TagName} {s : Session} :
    Fails (resolveTag ctx name) s ↔ ∃ qualified, name = .qualified qualified := by
  match name with
  | .path (.ident name) =>
    refine iff_of_false ?_ (by rintro ⟨_, ⟨⟩⟩)
    unfold resolveTag resolveIdent get
    dsimp only
    split
    · exact not_fails_pure
    · split
      · exact not_fails_bind not_fails_request fun _ _ => not_fails_pure
      · split
        · exact not_fails_pure
        · split
          · exact not_fails_pure
          · exact not_fails_bind not_fails_request fun _ _ => not_fails_pure
  | .path (.member span object property) =>
    exact iff_of_false not_fails_pure (by rintro ⟨_, ⟨⟩⟩)
  | .qualified name => exact iff_of_true fails_throw ⟨name, rfl⟩

/-- A resolved tag is a component exactly if its name says so. -/
theorem isComponent_resolveTag (ctx : Context) (name : TagName) :
    Yields (resolveTag ctx name) fun tag => tag.isComponent = name.isComponent ctx.options := by
  match name with
  | .path (.ident name) =>
    unfold resolveTag resolveIdent TagName.isComponent
    dsimp only
    split
    · rename_i hi
      exact yields_pure (by simp [ResolvedTag.element, hi])
    · rename_i hi
      rw [Bool.not_eq_true] at hi
      rw [hi, Bool.not_false, Bool.true_and]
      split
      · exact yields_bind_of_forall fun _ => yields_pure rfl
      · split
        · exact yields_pure rfl
        · split
          · rename_i hc
            exact yields_pure (by simp [ResolvedTag.element, hc])
          · exact yields_bind_of_forall fun _ => yields_pure rfl
  | .path (.member span object property) => exact yields_pure rfl
  | .qualified name => exact yields_throw

/-- The props argument is finished without a fault. -/
theorem not_fails_finishProps {state : PropsState} {s : Session} : ¬ Fails (finishProps state) s :=
  not_fails_bind not_fails_request fun _ _ => not_fails_pure

theorem not_fails_vnodeChildren {ctx : Context} {tag : ResolvedTag} {items : List Node}
    {slots : Option Node} {s : Session} : ¬ Fails (vnodeChildren ctx tag items slots) s := by
  have hlone (child : Node) : ¬ Fails (loneChild ctx child) s := by
    unfold loneChild
    split
    · exact not_fails_pure
    · split
      · exact not_fails_bind not_fails_request fun _ _ => not_fails_pure
      · exact not_fails_pure
    · exact not_fails_pure
    · exact not_fails_pure
  unfold vnodeChildren componentChildren
  split
  · exact not_fails_pure
  · split
    · split
      · exact not_fails_pure
      · exact not_fails_bind (hlone _) fun _ _ => not_fails_pure
      · exact not_fails_pure
    · exact not_fails_pure

/-- A construction is built without a fault. -/
theorem not_fails_construct {ctx : Context} {tag : Node} {props children : Option Node}
    {flag : PatchFlag} {names : Option NameSet} {span : Span} {s : Session} :
    ¬ Fails (construct ctx tag props children flag names span) s := by
  have hflag (t : Session) : ¬ Fails (flagLiteral ctx flag span) t := by
    unfold flagLiteral
    split
    · exact not_fails_pure
    · split
      · exact not_fails_bind not_fails_comment fun _ _ => not_fails_pure
      · exact not_fails_pure
  refine not_fails_bind not_fails_request fun factory t => ?_
  split
  · exact not_fails_pure
  · exact not_fails_bind (hflag t) fun _ _ => not_fails_pure

/-- Once its tag, its children and its props are known, an element is finished without a fault. -/
theorem not_fails_finishElement {ctx : Context} {span : Span} {tag : ResolvedTag}
    {children : Children} {props : ElementProps} {s : Session} :
    ¬ Fails (finishElement ctx span tag children props) s := by
  refine not_fails_bind not_fails_vnodeChildren fun argument t => ?_
  refine not_fails_bind not_fails_construct fun node t => ?_
  split
  · exact not_fails_pure
  · exact not_fails_bind not_fails_request fun _ _ => not_fails_pure

theorem not_fails_finishFragment {ctx : Context} {span : Span} {children : Children}
    {s : Session} : ¬ Fails (finishFragment ctx span children) s :=
  not_fails_bind not_fails_request fun _ _ => not_fails_construct

/-- A constructed node is a call of a name. -/
theorem construct_yields_invoke {Q : Node → Prop} (hq : ∀ name args, Q (.invoke name args))
    {ctx : Context} {tag : Node} {props children : Option Node} {flag : PatchFlag}
    {names : Option NameSet} {span : Span} :
    Yields (construct ctx tag props children flag names span) Q := by
  refine yields_bind_of_forall fun factory => ?_
  split
  · exact yields_pure (hq _ _)
  · exact yields_bind_of_forall fun _ => yields_pure (hq _ _)

/-- What markup compiles to is a call of a name. -/
theorem compile_yields_invoke {Q : Node → Prop} (hq : ∀ name args, Q (.invoke name args))
    (ctx : Context) (markup : Jsx) : Yields (markup.compile ctx) Q := by
  cases markup with
  | element span opening attrs children closing =>
    refine yields_bind_of_forall fun tag => yields_bind_of_forall fun items =>
      yields_bind_of_forall fun state => yields_bind_of_forall fun props =>
      yields_bind_of_forall fun argument => ?_
    refine (construct_yields_invoke hq).bind fun node hn => ?_
    split
    · exact yields_pure hn
    · exact yields_bind_of_forall fun _ => yields_pure (hq _ _)
  | fragment span opening closing children =>
    exact yields_bind_of_forall fun items => yields_bind_of_forall fun tag =>
      construct_yields_invoke hq

/-- Markup compiles to a node that a directive cannot assign to or take apart. -/
theorem isOther_compile (ctx : Context) (markup : Jsx) :
    Yields (markup.compile ctx) fun node => node.isOther = true :=
  compile_yields_invoke (fun _ _ => rfl) ctx markup

/-- The compiled value of an attribute is alike to the expression it stands for. -/
theorem alike_attrValue (ctx : Context) (value : AttrValue) :
    Yields (value.compile ctx) fun compiled => Option.Rel Node.Alike value.expr? compiled := by
  cases value with
  | bare => exact yields_pure .none
  | lit value =>
    refine yields_pure (.some (.other rfl ?_))
    cases value.string? <;> rfl
  | container span body => exact yields_pure (.some (.refl body))
  | empty span inner => exact yields_pure .none
  | jsx markup =>
    exact (isOther_compile ctx markup).bind fun node hn => yields_pure (.some (.other rfl hn))

end Compile

open Compile

-- The parts are listed in the order in which they are compiled, except that the children of an
-- element come before its attributes; for whether there is a fault the order does not matter.
mutual

/-- Compiling a piece of markup fails exactly if it or a piece compiled with it is faulty. -/
theorem Jsx.fails_compile_iff (ctx : Context) (markup : Jsx) {s : Session} :
    Fails (markup.compile ctx) s ↔ ∃ part ∈ markup.parts, part.Faulty ctx.options := by
  cases markup with
  | element span opening attrs children closing =>
    have hrest {tag : ResolvedTag} {items : Children} {t : Session} :
        Fails (do
          let state ← Attr.compileAll ctx tag attrs (.new ctx.options) attrs
          let props ← finishProps state
          finishElement ctx span tag items props) t ↔
        (∃ part ∈ Attr.partsAll attrs, part.Faulty ctx.options) ∨
          ∃ attr ∈ attrs, attr.Faulty tag.isComponent := by
      rw [fails_bind_iff_of_yields (P := False), or_false, Attr.fails_compileAll_iff]
      intro _ state _ _
      rw [iff_false]
      exact not_fails_bind not_fails_finishProps fun _ _ => not_fails_finishElement
    rw [Jsx.parts, List.exists_mem_cons_iff, Jsx.faulty_element_iff, Jsx.compile,
      fails_bind_iff_of_yields (P := (∃ part ∈ Child.partsAll children, part.Faulty ctx.options) ∨
        (∃ part ∈ Attr.partsAll attrs, part.Faulty ctx.options) ∨
          ∃ attr ∈ attrs, attr.Faulty (opening.name.isComponent ctx.options)),
      fails_resolveTag_iff]
    · simp only [List.mem_append, or_and_right, exists_or]
      rw [iff_iff_eq]
      ac_rfl
    · intro _ tag _ ht
      rw [← isComponent_resolveTag ctx opening.name _ tag _ ht,
        fails_bind_iff_of_yields (fun _ _ _ _ => hrest), Child.fails_compileAll_iff]
  | fragment span opening closing children =>
    rw [Jsx.parts, List.exists_mem_cons_iff, Jsx.compile,
      fails_bind_iff_of_yields (P := False) (by simp [not_fails_finishFragment]),
      Child.fails_compileAll_iff]
    simp [Jsx.not_faulty_fragment]

/-- The children of a tag fail to compile if and only if some markup among them is faulty. -/
theorem Child.fails_compileAll_iff (ctx : Context) (children : List Child) {s : Session} :
    Fails (Child.compileAll ctx children) s ↔
      ∃ part ∈ Child.partsAll children, part.Faulty ctx.options := by
  cases children with
  | nil => simp [Child.compileAll, Child.partsAll]
  | cons child children =>
    have hrest {first : Children} {t : Session} :
        Fails (do
          let rest ← Child.compileAll ctx children
          return first.append rest) t ↔
        ∃ part ∈ Child.partsAll children, part.Faulty ctx.options := by
      rw [fails_bind_iff_of_yields (P := False) (by simp), or_false,
        Child.fails_compileAll_iff ctx children]
    rw [Child.compileAll, fails_bind_iff_of_yields (fun _ _ _ _ => hrest),
      Child.fails_compile_iff ctx child]
    simp only [Child.partsAll, List.mem_append, or_and_right, exists_or]

theorem Child.fails_compile_iff (ctx : Context) (child : Child) {s : Session} :
    Fails (child.compile ctx) s ↔ ∃ part ∈ child.parts, part.Faulty ctx.options := by
  cases child with
  | jsx markup =>
    rw [Child.compile, fails_bind_iff_of_yields (P := False) (by simp), or_false,
      Jsx.fails_compile_iff ctx markup, Child.parts]
  | _ => simp [Child.compile, Child.parts]

/-- The attributes of a tag fail if and only if one of them or some markup in their values is
faulty. -/
theorem Attr.fails_compileAll_iff (ctx : Context) (tag : ResolvedTag) (all attrs : List Attr)
    {state : PropsState} {s : Session} :
    Fails (Attr.compileAll ctx tag all state attrs) s ↔
      (∃ part ∈ Attr.partsAll attrs, part.Faulty ctx.options) ∨
        ∃ attr ∈ attrs, attr.Faulty tag.isComponent := by
  cases attrs with
  | nil => simp [Attr.compileAll, Attr.partsAll]
  | cons attr attrs =>
    rw [Attr.compileAll, fails_bind_iff_of_yields fun _ _ _ _ =>
      Attr.fails_compileAll_iff ctx tag all attrs, Attr.fails_compile_iff ctx tag all attr]
    simp only [Attr.partsAll, List.mem_append, or_and_right, exists_or, List.exists_mem_cons_iff]
    rw [iff_iff_eq]
    ac_rfl

theorem Attr.fails_compile_iff (ctx : Context) (tag : ResolvedTag) (all : List Attr) (attr : Attr)
    {state : PropsState} {s : Session} :
    Fails (attr.compile ctx tag all state) s ↔
      (∃ part ∈ attr.parts, part.Faulty ctx.options) ∨ attr.Faulty tag.isComponent := by
  cases attr with
  | named span name value =>
    rw [Attr.compile, fails_bind_iff_of_yields, AttrValue.fails_compile_iff ctx value, Attr.parts,
      Attr.Faulty]
    intro _ compiled _ hr
    rw [fails_applyAttr_iff, directiveFault_iff_of_alike (alike_attrValue ctx value _ _ _ hr)]
  | spread dots operand => simp [Attr.compile, Attr.parts, Attr.Faulty]

theorem AttrValue.fails_compile_iff (ctx : Context) (value : AttrValue) {s : Session} :
    Fails (value.compile ctx) s ↔ ∃ part ∈ value.parts, part.Faulty ctx.options := by
  cases value with
  | jsx markup =>
    rw [AttrValue.compile, fails_bind_iff_of_yields (P := False) (by simp), or_false,
      Jsx.fails_compile_iff ctx markup, AttrValue.parts]
  | _ => simp [AttrValue.compile, AttrValue.parts]

end

end JsxVNode
