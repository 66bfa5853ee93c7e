import JsxVNode.Proofs.Compile.Faults

/-!
# Which fault is reported

The checks that are made when a piece of markup is compiled, one after the other: the
tag, then the children, then the attributes, each after the markup that is its value.
Every check has a fault of its own, with the place it points to. Compiling reports the
first of the faults, and it returns if there is none. The faults are read off the
markup and the options; what the file declares does not enter.
-/

namespace JsxVNode

/-- A fault, if a condition holds. -/
def faultIf (p : Prop) [Decidable p] (fault : Fault) : List Fault := if p then [fault] else []

@[simp] theorem faultIf_pos {p : Prop} [Decidable p] (h : p) (fault : Fault) :
    faultIf p fault = [fault] := if_pos h

@[simp] theorem faultIf_neg {p : Prop} [Decidable p] (h : ¬ p) (fault : Fault) :
    faultIf p fault = [] := if_neg h

/-- Conditions that amount to the same report the same fault. -/
theorem faultIf_congr {p q : Prop} [Decidable p] [Decidable q] (h : p ↔ q) (fault : Fault) :
    faultIf p fault = faultIf q fault := by
  unfold faultIf
  simp only [h]

instance Node.decidableAssignable (node : Node) : Decidable node.Assignable :=
  decidable_of_iff (node.assignTarget?.isSome = true) (by
    rw [Option.isSome_iff_ne_none, ne_eq, Node.assignTarget?_eq_none_iff, not_not])

instance decidableNotNested (value : Option Node) : Decidable (NotNested value) :=
  decidable_of_iff
    ((value.bind Node.arrayElements?).any (·.any (·.innerElements?.isNone)) = true) (by
      simp [NotNested, Option.any_eq_true])

instance decidableBindsUnassignable (several : Bool) (value : Option Node) :
    Decidable (BindsUnassignable several value) :=
  decidable_of_iff ((boundValues several value).any (·.all (¬ ·.Assignable)) = true) (by
    simp [BindsUnassignable, Option.all_eq_true])

/-- The faults of a directive attribute at a given range. `inBraces` tells whether its value stands
in braces. -/
def directiveFaults (isComponent : Bool) (span : Span) (name : AttrName) (inBraces : Bool)
    (value : Option Node) : List Fault :=
  let base := (DirectiveName.ofAttr name).name
  let spelling := if base = "models" then "v-models" else "v-model"
  (faultIf (base = "model" ∧ inBraces = false) (.modelRequiresExpression name.spelling span) ++
    (faultIf (base = "models" ∧ isComponent = false) (.modelsOnIntrinsic span) ++
      faultIf (base = "models" ∧ NotNested value) (.modelsNotNested span))) ++
    faultIf ((base = "model" ∨ base = "models") ∧ BindsUnassignable (base = "models") value)
      (.notAssignable spelling span)

/-- The fault of a tag with a colon. -/
def TagName.faults : TagName → List Fault
  | .path _ => []
  | .qualified name =>
    [.unsupportedTag name.spelling (.between name.space.span.lo name.name.span.hi)]

mutual

/-- The faults of a piece of markup and of the pieces compiled with it, in the order of the
checks. -/
def Jsx.faults (options : Options) : Jsx → List Fault
  | .element _ opening attrs children _ =>
    opening.name.faults ++ (Child.faultsAll options children ++
      Attr.faultsAll options (opening.name.isComponent options) attrs)
  | .fragment _ _ _ children => Child.faultsAll options children

/-- The faults of the children of a tag. -/
def Child.faultsAll (options : Options) : List Child → List Fault
  | [] => []
  | child :: children => child.faults options ++ Child.faultsAll options children

/-- The faults of a child. -/
def Child.faults (options : Options) : Child → List Fault
  | .jsx markup => markup.faults options
  | _ => []

/-- The faults of the attributes of a tag. -/
def Attr.faultsAll (options : Options) (isComponent : Bool) : List Attr → List Fault
  | [] => []
  | attr :: attrs => attr.faults options isComponent ++ Attr.faultsAll options isComponent attrs

/-- The faults of an attribute. -/
def Attr.faults (options : Options) (isComponent : Bool) : Attr → List Fault
  | .named span name value =>
    value.faults options ++
      if isDirectiveName name.spelling then
        directiveFaults isComponent span name value.isContainer value.expr?
      else []
  | .spread .. => []

/-- The faults of the value of an attribute. -/
def AttrValue.faults (options : Options) : AttrValue → List Fault
  | .jsx markup => markup.faults options
  | _ => []

end

/-- The faults of a directive are the same for alike values. -/
theorem directiveFaults_eq_of_alike {a b : Option Node} (h : Option.Rel Node.Alike a b)
    (isComponent : Bool) (span : Span) (name : AttrName) (inBraces : Bool) :
    directiveFaults isComponent span name inBraces a =
      directiveFaults isComponent span name inBraces b := by
  unfold directiveFaults
  simp only [notNested_iff_of_alike h, bindsUnassignable_iff_of_alike h]

namespace Compile

variable {α β : Type}

/-- A step reports the first of some faults, and it returns if there is none. -/
def Finds (x : Compile α) (faults : List Fault) : Prop :=
  ∀ s, match (outcome x s).1 with
    | .ok _ => faults = []
    | .error fault => faults.head? = some fault

/-- A step that never fails has no faults to find. -/
theorem finds_of_not_fails {x : Compile α} (h : ∀ s, ¬ Fails x s) : Finds x [] := by
  intro s
  obtain ⟨a, s', hr⟩ := exists_returns_of_not_fails (h s)
  rw [hr.outcome_eq]

theorem finds_pure (a : α) : Finds (pure a) [] := finds_of_not_fails fun _ => not_fails_pure

theorem finds_throw (fault : Fault) : Finds (throw fault : Compile α) [fault] := fun _ => rfl

/-- A check that comes first hides the faults after it. -/
theorem Finds.check {p : Prop} [Decidable p] {x : Compile α} {faults : List Fault} (fault : Fault)
    (hx : Finds x faults) : Finds (if p then throw fault else x) (faultIf p fault ++ faults) := by
  split
  · rename_i hp
    rw [faultIf_pos hp]
    exact fun _ => rfl
  · rename_i hp
    rw [faultIf_neg hp]
    exact hx

/-- Passing on a result finds the one fault that the result can be. -/
theorem finds_ofExcept {e : Except Fault α} {p : Prop} [Decidable p] {fault : Fault}
    (hp : (∃ f, e = .error f) ↔ p) (hf : ∀ f, e = .error f → f = fault) :
    Finds (ofExcept e) (faultIf p fault) := by
  cases e with
  | ok a =>
    rw [faultIf_neg fun h => by obtain ⟨f, hn⟩ := hp.mpr h; cases hn]
    exact finds_pure a
  | error f =>
    rw [faultIf_pos (hp.mp ⟨f, rfl⟩), ← hf f rfl]
    exact finds_throw f

/-- If the first of two steps returns, the faults of the second one count. -/
theorem Finds.bind {x : Compile α} {f : α → Compile β} {faults faults' : List Fault} {Q : α → Prop}
    (hx : Finds x faults) (hq : Yields x Q) (hf : ∀ a, Q a → Finds (f a) faults') :
    Finds (x >>= f) (faults ++ faults') := by
  intro s
  have hfirst := hx s
  rw [outcome_bind]
  rcases ho : outcome x s with ⟨fault | a, s'⟩
  · rw [ho] at hfirst
    dsimp only at hfirst ⊢
    rw [List.head?_append, hfirst]
    rfl
  · rw [ho] at hfirst
    dsimp only at hfirst ⊢
    rw [hfirst, List.nil_append]
    exact hf a (hq s a s' ho) s'

/-- What follows does not look at what the first step returns. -/
theorem Finds.bind_of_forall {x : Compile α} {f : α → Compile β} {faults faults' : List Fault}
    (hx : Finds x faults) (hf : ∀ a, Finds (f a) faults') :
    Finds (x >>= f) (faults ++ faults') :=
  hx.bind (Q := fun _ => True) (fun _ _ _ _ => trivial) fun a _ => hf a

/-- Nothing is checked after the first step. -/
theorem Finds.then {x : Compile α} {f : α → Compile β} {faults : List Fault} (hx : Finds x faults)
    (hf : ∀ a, Finds (f a) []) : Finds (x >>= f) faults := by
  rw [← List.append_nil faults]
  exact hx.bind_of_forall hf

/-- The fault of a value that is taken apart is the one that is asked for. -/
theorem eq_of_directiveEntries_eq_error {name : DirectiveName} {keepPlace : Bool}
    {value : Option Node} {fault f : Fault}
    (h : directiveEntries name keepPlace value fault = .error f) : f = fault := by
  unfold directiveEntries at h
  split at h
  · split at h
    · split at h
      · cases h
      · cases h
        rfl
    · cases h
  · cases h

/-- The fault of models is the one that is asked for. -/
theorem eq_of_modelPropsOf_eq_error {onComponent : Bool} {fault f : Fault}
    {values args : List (Option Node)} {modifiers : List NameSet}
    (h : modelPropsOf onComponent fault values args modifiers = .error f) : f = fault := by
  induction values generalizing args modifiers with
  | nil => cases h
  | cons value values ih =>
    cases value with
    | none =>
      cases h
      rfl
    | some value =>
      simp only [modelPropsOf] at h
      split at h
      · cases h
        rfl
      · cases hrest : modelPropsOf onComponent fault values args.tail modifiers.tail with
        | ok models =>
          rw [hrest] at h
          cases h
        | error f' =>
          rw [hrest] at h
          cases h
          exact ih hrest

/-- Taking a directive apart finds a missing expression, then several models on an element, then
values that are not nested. -/
theorem finds_parseDirective (span : Span) (name : AttrName) (attrValue : AttrValue)
    (value : Option Node) (tag : ResolvedTag) (attrs : List Attr) :
    let base := (DirectiveName.ofAttr name).name
    Finds (parseDirective span name attrValue value tag attrs)
      (faultIf (base = "model" ∧ attrValue.isContainer = false)
          (.modelRequiresExpression name.spelling span) ++
        (faultIf (base = "models" ∧ tag.isComponent = false) (.modelsOnIntrinsic span) ++
          faultIf (base = "models" ∧ NotNested value) (.modelsNotNested span))) := by
  intro base
  rw [parseDirective_eq]
  simp only [Bool.not_eq_true']
  refine Finds.check _ (Finds.check _ (Finds.then ?_ fun entries => ?_))
  · exact finds_ofExcept directiveEntries_error_iff fun _ => eq_of_directiveEntries_eq_error
  · split
    · exact (finds_of_not_fails (not_fails_directiveHandle _ _ _)).then fun _ => finds_pure _
    · exact finds_pure _

/-- A directive finds the faults of its name and value, and last a target that cannot be assigned
to. -/
theorem finds_applyDirective (span : Span) (name : AttrName) (attrValue : AttrValue)
    (value : Option Node) (tag : ResolvedTag) (attrs : List Attr) (state : PropsState) :
    Finds (applyDirective span name attrValue value tag attrs state)
      (directiveFaults tag.isComponent span name attrValue.isContainer value) := by
  have hparse := finds_parseDirective span name attrValue value tag attrs
  have hname := name_parseDirective span name attrValue value tag attrs
  have hvalues := values_parseDirective span name attrValue value tag attrs
  rw [applyDirective_eq]
  refine hparse.bind (Q := fun parsed => parsed.name = (DirectiveName.ofAttr name).name ∧
    parsed.values = boundValues ((DirectiveName.ofAttr name).name = "models") value)
    (fun s parsed s' hr => ⟨hname s parsed s' hr, hvalues s parsed s' hr⟩) ?_
  rintro parsed ⟨hn, hv⟩
  have hmodels : Finds (ofExcept (parsed.models span)) (faultIf
      (BindsUnassignable ((DirectiveName.ofAttr name).name = "models") value)
      (.notAssignable (if (DirectiveName.ofAttr name).name = "models" then "v-models"
        else "v-model") span)) := by
    refine finds_ofExcept ?_ fun f hf => ?_
    · rw [ParsedDirective.models, modelPropsOf_error_iff, hv, BindsUnassignable]
    · rw [← hn]
      exact eq_of_modelPropsOf_eq_error hf
  rw [ParsedDirective.isModel, hn]
  generalize (DirectiveName.ofAttr name).name = base at hmodels ⊢
  by_cases hm : base = "model" ∨ base = "models"
  · have hs : base ≠ "slots" := by
      rcases hm with rfl | rfl <;> decide
    have hmodel : (base == "model" || base == "models") = true := by simpa using hm
    rw [if_neg hs, if_pos hmodel, faultIf_congr (and_iff_right hm)]
    exact hmodels.then fun _ => finds_pure _
  · have hmodel : ¬ (base == "model" || base == "models") = true := by simpa using hm
    rw [faultIf_neg fun h => hm h.1, if_neg hmodel]
    split
    · exact finds_pure _
    · exact finds_pure _

/-- An attribute finds faults only if it is a directive. -/
theorem finds_applyAttr (ctx : Context) (span : Span) (name : AttrName) (attrValue : AttrValue)
    (value : Option Node) (tag : ResolvedTag) (attrs : List Attr) (state : PropsState) :
    Finds (applyAttr ctx span name attrValue value tag attrs state)
      (if isDirectiveName name.spelling then
        directiveFaults tag.isComponent span name attrValue.isContainer value
      else []) := by
  rw [applyAttr_eq]
  dsimp only
  split
  · rename_i ht
    have hd : isDirectiveName name.spelling = false := by
      rcases ht.2 with h | h <;> rw [h] <;> decide
    rw [hd]
    exact finds_of_not_fails fun _ => not_fails_bind not_fails_request fun _ _ => not_fails_pure
  · split
    · exact finds_applyDirective span name attrValue value tag attrs _
    · exact finds_pure _

/-- Resolving a tag finds a fault only in a name with a namespace. -/
theorem finds_resolveTag (ctx : Context) (name : TagName) :
    Finds (resolveTag ctx name) name.faults := by
  cases name with
  | path dotted =>
    refine finds_of_not_fails fun s hf => ?_
    obtain ⟨qualified, hn⟩ := fails_resolveTag_iff.mp hf
    cases hn
  | qualified name => exact finds_throw _

end Compile

open Compile

mutual

/-- Compiling a piece of markup reports the first of its faults. -/
theorem Jsx.finds_compile (ctx : Context) (markup : Jsx) :
    Finds (markup.compile ctx) (markup.faults ctx.options) := by
  cases markup with
  | element span opening attrs children closing =>
    rw [Jsx.compile, Jsx.faults]
    refine (finds_resolveTag ctx opening.name).bind (isComponent_resolveTag ctx opening.name)
      fun tag ht => ?_
    rw [← ht]
    refine (Child.finds_compileAll ctx children).bind_of_forall fun items => ?_
    refine (Attr.finds_compileAll ctx tag attrs attrs (.new ctx.options)).then fun state => ?_
    exact finds_of_not_fails fun _ =>
      not_fails_bind not_fails_finishProps fun _ _ => not_fails_finishElement
  | fragment span opening closing children =>
    rw [Jsx.compile, Jsx.faults]
    exact (Child.finds_compileAll ctx children).then fun _ =>
      finds_of_not_fails fun _ => not_fails_finishFragment

/-- The children of a tag are compiled in order, so the first fault among them is found. -/
theorem Child.finds_compileAll (ctx : Context) (children : List Child) :
    Finds (Child.compileAll ctx children) (Child.faultsAll ctx.options children) := by
  cases children with
  | nil => exact finds_pure _
  | cons child children =>
    exact (Child.finds_compile ctx child).bind_of_forall fun _ =>
      (Child.finds_compileAll ctx children).then fun _ => finds_pure _

theorem Child.finds_compile (ctx : Context) (child : Child) :
    Finds (child.compile ctx) (child.faults ctx.options) := by
  cases child with
  | jsx markup => exact (Jsx.finds_compile ctx markup).then fun _ => finds_pure _
  | _ => exact finds_pure _

/-- The attributes of a tag are sorted in by their order, so the first fault among them is found. -/
theorem Attr.finds_compileAll (ctx : Context) (tag : ResolvedTag) (all attrs : List Attr)
    (state : PropsState) :
    Finds (Attr.compileAll ctx tag all state attrs)
      (Attr.faultsAll ctx.options tag.isComponent attrs) := by
  cases attrs with
  | nil => exact finds_pure _
  | cons attr attrs =>
    exact (Attr.finds_compile ctx tag all attr state).bind_of_forall fun state =>
      Attr.finds_compileAll ctx tag all attrs state

/-- The markup in the value of an attribute is compiled before the attribute is sorted in. -/
theorem Attr.finds_compile (ctx : Context) (tag : ResolvedTag) (all : List Attr) (attr : Attr)
    (state : PropsState) :
    Finds (attr.compile ctx tag all state) (attr.faults ctx.options tag.isComponent) := by
  cases attr with
  | named span name value =>
    refine (AttrValue.finds_compile ctx value).bind (alike_attrValue ctx value)
      fun compiled halike => ?_
    rw [directiveFaults_eq_of_alike halike]
    exact finds_applyAttr ctx span name value compiled tag all state
  | spread dots operand => exact finds_pure _

theorem AttrValue.finds_compile (ctx : Context) (value : AttrValue) :
    Finds (value.compile ctx) (value.faults ctx.options) := by
  cases value with
  | jsx markup => exact (Jsx.finds_compile ctx markup).then fun _ => finds_pure _
  | _ => exact finds_pure _

end

end JsxVNode
