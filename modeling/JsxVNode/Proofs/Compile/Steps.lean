import JsxVNode.Proofs.Compile.Directive
import JsxVNode.Proofs.Tree.Markup

/-!
# What compilation is put together from

Compiling a piece of markup returns and fails, adds comments, makes a few requests to
the imports, and does one thing after another. Whatever holds of these single steps
and is kept when steps are joined holds of the compilation as a whole. The lemmas go
through the functions of the compiler in the order in which they call each other.

Two single steps stand in one place each. One request is made only if an element has
several parts of props to merge, and comments are only added where the flag of a call is
written. A condition that one of them does not satisfy still holds of the functions that
do without it.
-/

namespace JsxVNode

namespace Compile

/-- A condition that holds of the single steps of the compiler, but perhaps not of adding a comment
and of the request for the merging function, and is kept when steps are joined. The node factory is
never requested as an export like any other. -/
structure SilentSteps (K : ∀ {α : Type}, Compile α → Prop) : Prop where
  pure : ∀ {α : Type} (a : α), K (Pure.pure a)
  throw : ∀ {α : Type} (fault : Fault), K (MonadExcept.throw fault : Compile α)
  bind : ∀ {α β : Type} {x : Compile α} {f : α → Compile β}, K x → (∀ a, K (f a)) → K (x >>= f)
  get : ∀ symbol : Export, symbol ≠ .createVNode → symbol ≠ .mergeProps → K (Compile.get symbol)
  transformOn : K (request (·.transformOn))
  isSlot : K (request (·.isSlot))
  factory : K (request (·.factory))

/-- A condition that holds of adding a comment as well. -/
structure PlainSteps (K : ∀ {α : Type}, Compile α → Prop) : Prop extends SilentSteps K where
  comment : ∀ (position : Nat) (text : String), K (Compile.comment position text)

/-- A condition that holds of all single steps of the compiler and is kept when steps are joined. -/
structure Steps (K : ∀ {α : Type}, Compile α → Prop) : Prop extends PlainSteps K where
  mergeProps : K (Compile.get .mergeProps)

/-- The props argument is finished without a request, or with the one for the merging function. -/
theorem request_finish_eq (builder : PropsBuilder) :
    request builder.finish =
      if builder.fragments.isEmpty then return PropsBuilder.single builder.properties
      else
        match builder.flush.fragments with
        | [part] => return some part
        | parts => do return some (.invoke (← get .mergeProps) parts) := by
  refine ext_outcome fun s => ?_
  rw [outcome_request]
  unfold PropsBuilder.finish
  by_cases h : builder.fragments.isEmpty = true
  · rw [if_pos h, if_pos h, outcome_pure]
  · rw [if_neg h, if_neg h]
    match builder.flush.fragments with
    | [part] => rfl
    | [] => rfl
    | first :: second :: rest => rfl

/-- A model is implemented by a runtime directive. -/
theorem modelExport_ne (tag : ResolvedTag) (attrs : List Attr) :
    modelExport tag attrs ≠ .createVNode ∧ modelExport tag attrs ≠ .mergeProps := by
  unfold modelExport
  split
  · exact ⟨nofun, nofun⟩
  · split
    · exact ⟨nofun, nofun⟩
    · split
      · exact ⟨nofun, nofun⟩
      · split
        · exact ⟨nofun, nofun⟩
        · split <;> exact ⟨nofun, nofun⟩
      · exact ⟨nofun, nofun⟩

namespace SilentSteps

variable {K : ∀ {α : Type}, Compile α → Prop}

/-- Passing on a result or a fault satisfies every such condition. -/
theorem ofExcept {α : Type} (h : SilentSteps K) (e : Except Fault α) : K (ofExcept e) := by
  cases e with
  | ok a => exact h.pure a
  | error fault => exact h.throw fault

/-- Resolving a tag adds no comment, and asks for exports other than the factory. -/
theorem resolveTag (h : SilentSteps K) (ctx : Context) (name : TagName) :
    K (resolveTag ctx name) := by
  match name with
  | .path (.ident name) =>
    unfold Compile.resolveTag resolveIdent
    dsimp only
    split
    · exact h.pure _
    · split
      · exact h.bind (h.get _ (by decide) (by decide)) fun _ => h.pure _
      · split
        · exact h.pure _
        · split
          · exact h.pure _
          · exact h.bind (h.get _ (by decide) (by decide)) fun _ => h.pure _
  | .path (.member span object property) => exact h.pure _
  | .qualified name => exact h.throw _

/-- Choosing the handle of a directive adds no comment. -/
theorem directiveHandle (h : SilentSteps K) (name : String) (tag : ResolvedTag)
    (attrs : List Attr) : K (directiveHandle name tag attrs) := by
  unfold Compile.directiveHandle
  split
  · exact h.bind (h.get _ (by decide) (by decide)) fun _ => h.pure _
  · split
    · exact h.bind (h.get _ (modelExport_ne tag attrs).1 (modelExport_ne tag attrs).2)
        fun _ => h.pure _
    · exact h.bind (h.get _ (by decide) (by decide)) fun _ => h.pure _

/-- Taking a directive apart adds no comment, and asks for a handle only. -/
theorem parseDirective (h : SilentSteps K) (span : Span) (name : AttrName) (attrValue : AttrValue)
    (value : Option Node) (tag : ResolvedTag) (attrs : List Attr) :
    K (parseDirective span name attrValue value tag attrs) := by
  rw [parseDirective_eq]
  split
  · exact h.throw _
  · split
    · exact h.throw _
    · refine h.bind (h.ofExcept _) fun entries => ?_
      dsimp only
      split
      · exact h.bind (h.directiveHandle _ _ _) fun _ => h.pure _
      · exact h.pure _

/-- Sorting an attribute in adds no comment. -/
theorem applyAttr (h : SilentSteps K) (ctx : Context) (span : Span) (name : AttrName)
    (attrValue : AttrValue) (value : Option Node) (tag : ResolvedTag) (attrs : List Attr)
    (state : PropsState) : K (applyAttr ctx span name attrValue value tag attrs state) := by
  rw [applyAttr_eq]
  dsimp only
  split
  · exact h.bind h.transformOn fun _ => h.pure _
  · split
    · rw [applyDirective_eq]
      refine h.bind (h.parseDirective _ _ _ _ _ _) fun parsed => ?_
      split
      · exact h.pure _
      · split
        · exact h.bind (h.ofExcept _) fun _ => h.pure _
        · exact h.pure _
    · exact h.pure _

/-- Props of no more than one part are finished without the merging function. -/
theorem finishProps (h : SilentSteps K) {state : PropsState}
    (hparts : state.builder.flush.fragments.length ≤ 1) : K (finishProps state) := by
  unfold Compile.finishProps
  refine h.bind ?_ fun _ => h.pure _
  rw [request_finish_eq]
  split
  · exact h.pure _
  · rename_i hempty
    cases hflush : state.builder.flush.fragments with
    | nil => exact absurd hflush (PropsBuilder.fragments_flush_ne_nil (by simpa using hempty))
    | cons part rest =>
      rw [hflush, List.length_cons] at hparts
      rw [List.eq_nil_of_length_eq_zero (l := rest) (by omega)]
      exact h.pure _

/-- Wrapping a lone child adds no comment, but it may ask for the slot test. -/
theorem loneChild (h : SilentSteps K) (ctx : Context) (child : Node) : K (loneChild ctx child) := by
  unfold Compile.loneChild
  split
  · exact h.pure _
  · split
    · exact h.bind h.isSlot fun _ => h.pure _
    · exact h.pure _
  · exact h.pure _
  · exact h.pure _

/-- Building the children argument adds no comment. -/
theorem vnodeChildren (h : SilentSteps K) (ctx : Context) (tag : ResolvedTag) (items : List Node)
    (slots : Option Node) : K (vnodeChildren ctx tag items slots) := by
  unfold Compile.vnodeChildren componentChildren
  split
  · exact h.pure _
  · split
    · split
      · exact h.pure _
      · exact h.bind (h.loneChild ctx _) fun _ => h.pure _
      · exact h.pure _
    · exact h.pure _

end SilentSteps

namespace PlainSteps

variable {K : ∀ {α : Type}, Compile α → Prop}

/-- Writing a flag may add a comment, and does nothing else. -/
theorem flagLiteral (h : PlainSteps K) (ctx : Context) (flag : PatchFlag) (span : Span) :
    K (flagLiteral ctx flag span) := by
  unfold Compile.flagLiteral
  split
  · exact h.pure _
  · split
    · exact h.bind (h.comment _ _) fun _ => h.pure _
    · exact h.pure _

/-- A construction asks for the factory and writes its flag. -/
theorem construct (h : PlainSteps K) (ctx : Context) (tag : Node) (props children : Option Node)
    (flag : PatchFlag) (names : Option NameSet) (span : Span) :
    K (construct ctx tag props children flag names span) := by
  refine h.bind h.factory fun factory => ?_
  dsimp only
  split
  · exact h.pure _
  · exact h.bind (h.flagLiteral ctx flag span) fun _ => h.pure _

/-- An element is finished by plain steps alone. -/
theorem finishElement (h : PlainSteps K) (ctx : Context) (span : Span) (tag : ResolvedTag)
    (children : Children) (props : ElementProps) :
    K (finishElement ctx span tag children props) := by
  refine h.bind (h.vnodeChildren _ _ _ _) fun argument => ?_
  refine h.bind (h.construct _ _ _ _ _ _ _) fun node => ?_
  split
  · exact h.pure _
  · exact h.bind (h.get _ (by decide) (by decide)) fun _ => h.pure _

/-- A fragment is finished by plain steps alone. -/
theorem finishFragment (h : PlainSteps K) (ctx : Context) (span : Span) (children : Children) :
    K (finishFragment ctx span children) :=
  h.bind (h.get _ (by decide) (by decide)) fun _ => h.construct _ _ _ _ _ _ _

end PlainSteps

/-- Finishing the props argument asks for the export that merges parts, if there is more than
one. -/
theorem Steps.finishProps (h : Steps K) (state : PropsState) : K (Compile.finishProps state) := by
  unfold Compile.finishProps
  refine h.bind ?_ fun _ => h.pure _
  rw [request_finish_eq]
  split
  · exact h.pure _
  · split
    · exact h.pure _
    · exact h.bind h.mergeProps fun _ => h.pure _

end Compile

open Compile

variable {K : ∀ {α : Type}, Compile α → Prop}

/-- The props of an element are put together by a step that satisfies a condition if the sorting of
its attributes does. -/
def Jsx.PropsStep (K : ∀ {α : Type}, Compile α → Prop) (ctx : Context) : Jsx → Prop
  | .element _ _ attrs _ _ => ∀ tag, K (Attr.compileAll ctx tag attrs (.new ctx.options) attrs) →
    K (Attr.compileAll ctx tag attrs (.new ctx.options) attrs >>= finishProps)
  | .fragment .. => True

mutual

/-- What holds of the single steps of the compiler, and of putting together the props of the
elements in a piece of markup, holds of the compilation of the markup. -/
theorem Jsx.plainSteps_compile (h : PlainSteps K) (ctx : Context) (markup : Jsx)
    (hp : ∀ part ∈ markup.parts, part.PropsStep K ctx) : K (markup.compile ctx) := by
  cases markup with
  | element span opening attrs children closing =>
    rw [Jsx.parts, List.forall_mem_cons, List.forall_mem_append] at hp
    obtain ⟨hprops, hattrs, hchildren⟩ := hp
    rw [Jsx.compile]
    refine h.bind (h.resolveTag ctx opening.name) fun tag => ?_
    refine h.bind (Child.plainSteps_compileAll h ctx children hchildren) fun items => ?_
    rw [← bind_assoc]
    have hsorted := Attr.plainSteps_compileAll h ctx tag attrs attrs (.new ctx.options) hattrs
    exact h.bind (hprops tag hsorted) fun props => h.finishElement ctx span tag items props
  | fragment span opening closing children =>
    rw [Jsx.parts, List.forall_mem_cons] at hp
    exact h.bind (Child.plainSteps_compileAll h ctx children hp.2) fun items =>
      h.finishFragment ctx span items

/-- Children that are made of such parts compile by plain steps, one after the other. -/
theorem Child.plainSteps_compileAll (h : PlainSteps K) (ctx : Context) (children : List Child)
    (hp : ∀ part ∈ Child.partsAll children, part.PropsStep K ctx) :
    K (Child.compileAll ctx children) := by
  cases children with
  | nil => exact h.pure _
  | cons child children =>
    rw [Child.partsAll, List.forall_mem_append] at hp
    exact h.bind (Child.plainSteps_compile h ctx child hp.1) fun first =>
      h.bind (Child.plainSteps_compileAll h ctx children hp.2) fun rest => h.pure _

theorem Child.plainSteps_compile (h : PlainSteps K) (ctx : Context) (child : Child)
    (hp : ∀ part ∈ child.parts, part.PropsStep K ctx) : K (child.compile ctx) := by
  cases child with
  | jsx markup => exact h.bind (Jsx.plainSteps_compile h ctx markup hp) fun _ => h.pure _
  | _ => exact h.pure _

/-- Attributes that are made of such parts are sorted in by plain steps, one after the other. -/
theorem Attr.plainSteps_compileAll (h : PlainSteps K) (ctx : Context) (tag : ResolvedTag)
    (all attrs : List Attr) (state : PropsState)
    (hp : ∀ part ∈ Attr.partsAll attrs, part.PropsStep K ctx) :
    K (Attr.compileAll ctx tag all state attrs) := by
  cases attrs with
  | nil => exact h.pure _
  | cons attr attrs =>
    rw [Attr.partsAll, List.forall_mem_append] at hp
    exact h.bind (Attr.plainSteps_compile h ctx tag all attr state hp.1) fun next =>
      Attr.plainSteps_compileAll h ctx tag all attrs next hp.2

theorem Attr.plainSteps_compile (h : PlainSteps K) (ctx : Context) (tag : ResolvedTag)
    (all : List Attr) (attr : Attr) (state : PropsState)
    (hp : ∀ part ∈ attr.parts, part.PropsStep K ctx) : K (attr.compile ctx tag all state) := by
  cases attr with
  | named span name value =>
    exact h.bind (AttrValue.plainSteps_compile h ctx value hp) fun _ => h.applyAttr _ _ _ _ _ _ _ _
  | spread dots operand => exact h.pure _

theorem AttrValue.plainSteps_compile (h : PlainSteps K) (ctx : Context) (value : AttrValue)
    (hp : ∀ part ∈ value.parts, part.PropsStep K ctx) : K (value.compile ctx) := by
  cases value with
  | jsx markup => exact h.bind (Jsx.plainSteps_compile h ctx markup hp) fun _ => h.pure _
  | _ => exact h.pure _

end

namespace Compile.Steps

/-- Where a condition holds of all single steps, no part of markup is an exception. -/
theorem propsStep (h : Steps K) (ctx : Context) (part : Jsx) : part.PropsStep K ctx := by
  cases part with
  | element span opening attrs children closing =>
    exact fun tag hsorted => h.bind hsorted h.finishProps
  | fragment span opening closing children => exact trivial

end Compile.Steps

/-- What holds of all single steps of the compiler holds of the compilation of markup. -/
theorem Jsx.steps_compile (h : Steps K) (ctx : Context) (markup : Jsx) : K (markup.compile ctx) :=
  Jsx.plainSteps_compile h.toPlainSteps ctx markup fun part _ => h.propsStep ctx part

/-- Children compile by single steps alone. -/
theorem Child.steps_compileAll (h : Steps K) (ctx : Context) (children : List Child) :
    K (Child.compileAll ctx children) :=
  Child.plainSteps_compileAll h.toPlainSteps ctx children fun part _ => h.propsStep ctx part

theorem Child.steps_compile (h : Steps K) (ctx : Context) (child : Child) :
    K (child.compile ctx) :=
  Child.plainSteps_compile h.toPlainSteps ctx child fun part _ => h.propsStep ctx part

/-- Attributes are sorted in by single steps alone. -/
theorem Attr.steps_compileAll (h : Steps K) (ctx : Context) (tag : ResolvedTag)
    (all attrs : List Attr) (state : PropsState) :
    K (Attr.compileAll ctx tag all state attrs) :=
  Attr.plainSteps_compileAll h.toPlainSteps ctx tag all attrs state
    fun part _ => h.propsStep ctx part

theorem Attr.steps_compile (h : Steps K) (ctx : Context) (tag : ResolvedTag) (all : List Attr)
    (attr : Attr) (state : PropsState) : K (attr.compile ctx tag all state) :=
  Attr.plainSteps_compile h.toPlainSteps ctx tag all attr state
    fun part _ => h.propsStep ctx part

theorem AttrValue.steps_compile (h : Steps K) (ctx : Context) (value : AttrValue) :
    K (value.compile ctx) :=
  AttrValue.plainSteps_compile h.toPlainSteps ctx value fun part _ => h.propsStep ctx part

end JsxVNode
