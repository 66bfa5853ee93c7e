import JsxVNode.Proofs.Compile.Closed
import JsxVNode.Proofs.Compile.Requests

/-!
# What markup compiles to

A closed condition holds of what a piece of markup compiles to if it holds of the
expressions in the markup, of the identifiers in its tags, and of the names that are
handed out by the time everything is compiled. The lemmas go through the functions of
the compiler in the order in which they call each other.
-/

namespace JsxVNode

namespace Compile

section

variable {α β : Type} {imports : Imports} {P : Node → Prop}

/-- Every value that a step returns satisfies a condition, if further requests lead from where it
returns to the given imports. -/
def YieldsBefore (imports : Imports) (x : Compile α) (Q : α → Prop) : Prop :=
  ∀ s a s', Returns x s a s' → s'.imports.LeadsTo imports → Q a

/-- What a step always returns satisfies the condition, so it does so before any later requests. -/
theorem Yields.before {x : Compile α} {Q : α → Prop} (h : Yields x Q) : YieldsBefore imports x Q :=
  fun s a s' hr _ => h s a s' hr

theorem yieldsBefore_pure {a : α} {Q : α → Prop} (h : Q a) : YieldsBefore imports (pure a) Q :=
  (yields_pure h).before

/-- The imports before a step that makes requests lead wherever the imports after it lead. -/
theorem MakesRequests.leadsTo {x : Compile α} (hx : MakesRequests x) {s s' : Session} {a : α}
    (h : Returns x s a s') (hl : s'.imports.LeadsTo imports) : s.imports.LeadsTo imports :=
  (h.leadsTo hx).trans hl

/-- What the first of two steps returns is known once the second is known to make requests. -/
theorem YieldsBefore.bind {x : Compile α} {f : α → Compile β} {Q : α → Prop} {R : β → Prop}
    (hx : YieldsBefore imports x Q) (hr : ∀ a, MakesRequests (f a))
    (hf : ∀ a, Q a → YieldsBefore imports (f a) R) : YieldsBefore imports (x >>= f) R := by
  intro s b s'' h hl
  obtain ⟨a, s', ha, hb⟩ := returns_bind_iff.mp h
  exact hf a (hx s a s' ha ((hr a).leadsTo hb hl)) s' b s'' hb hl

theorem YieldsBefore.bind_pure {x : Compile α} {g : α → β} {Q : α → Prop} {R : β → Prop}
    (hx : YieldsBefore imports x Q) (hg : ∀ a, Q a → R (g a)) :
    YieldsBefore imports (x >>= fun a => pure (g a)) R :=
  hx.bind (fun _ => steps_makesRequests.pure _) fun a ha => yieldsBefore_pure (hg a ha)

/-- A request yields a name that was handed out. -/
theorem handsOut_request {f : Imports → String × Imports}
    (h : ∀ imports, (f imports).2.HandsOut (f imports).1) :
    YieldsBefore imports (request f) imports.HandsOut := by
  intro s name s' hr hl
  obtain ⟨rfl, rfl⟩ := returns_request_iff.mp hr
  obtain ⟨requests, rfl⟩ := hl
  exact (h s.imports).serveAll requests

/-- An export of the runtime is referred to by a name that was handed out. -/
theorem handsOut_get (symbol : Export) : YieldsBefore imports (get symbol) imports.HandsOut :=
  handsOut_request fun _ => Imports.handsOut_request _ _ _ _

/-- The expression of a tag satisfies the condition: it is the identifier of the tag itself, a
string, an export of the runtime or a call of one. -/
theorem resolveTag_yields (h : Node.Closed imports P) (ctx : Context) (name : TagName)
    (ht : ∀ ident ∈ name.base?, P (.ident ident)) :
    YieldsBefore imports (resolveTag ctx name) fun tag => P tag.expr := by
  match name with
  | .path (.ident name) =>
    unfold resolveTag resolveIdent
    dsimp only
    split
    · exact yieldsBefore_pure (h.lit _)
    · split
      · exact (handsOut_get _).bind_pure fun name hn => h.ref hn
      · split
        · exact yieldsBefore_pure (ht name rfl)
        · split
          · exact yieldsBefore_pure (h.lit _)
          · exact (handsOut_get _).bind_pure fun name hn =>
              h.invoke hn (List.forall_mem_singleton.mpr (h.lit _))
  | .path (.member span object property) =>
    exact yieldsBefore_pure (TagPath.toNode_of_base h _ (ht _ rfl))
  | .qualified name => exact yields_throw.before

/-- The handle of a directive is an export of the runtime or a call that resolves it by its name. -/
theorem directiveHandle_yields (h : Node.Closed imports P) (name : String) (tag : ResolvedTag)
    (attrs : List Attr) : YieldsBefore imports (directiveHandle name tag attrs) P := by
  unfold directiveHandle
  split
  · exact (handsOut_get _).bind_pure fun name hn => h.ref hn
  · split
    · exact (handsOut_get _).bind_pure fun name hn => h.ref hn
    · exact (handsOut_get _).bind_pure fun name hn =>
        h.invoke hn (List.forall_mem_singleton.mpr (h.lit _))

/-- A directive taken apart is made of the value of its attribute and of what is generated for its
handle. -/
theorem parseDirective_yields (h : Node.Closed imports P) (span : Span) (name : AttrName)
    (attrValue : AttrValue) {value : Option Node} (hv : ∀ node ∈ value, P node)
    (tag : ResolvedTag) (attrs : List Attr) :
    YieldsBefore imports (parseDirective span name attrValue value tag attrs)
      (ParsedDirective.MadeOf P) := by
  intro s parsed s' hr hl
  obtain ⟨entries, he, hp⟩ := returns_parseDirective hr
  have ho := ParsedDirective.madeOf_ofEntries h (.ofAttr name) hv (directiveEntries_madeOf h hv he)
  rcases hp with ⟨_, _, rfl⟩ | ⟨_, handle, hh, rfl⟩
  · exact ho
  · refine ⟨ho.values, ho.args, ?_⟩
    have hhandle : P handle := directiveHandle_yields h _ _ _ _ _ _ hh hl
    rintro _ ⟨⟩
    refine h.directiveTuple hhandle ?_ ?_ _
    · intro node hn
      exact ho.values _ (List.mem_of_mem_head? (Option.join_eq_some_iff.mp hn)) node rfl
    · intro node hn
      exact ho.args _ (List.mem_of_mem_head? (Option.join_eq_some_iff.mp hn)) node rfl

/-- Sorting an attribute in keeps the state of the properties made of what satisfies the
condition. -/
theorem applyAttr_yields (h : Node.Closed imports P) (ctx : Context) (span : Span)
    (name : AttrName) (attrValue : AttrValue) {value : Option Node}
    (hv : ∀ node ∈ value, P node) (tag : ResolvedTag) (attrs : List Attr) {state : PropsState}
    (hs : state.MadeOf P) :
    YieldsBefore imports (applyAttr ctx span name attrValue value tag attrs state)
      (PropsState.MadeOf P) := by
  have hval : P (value.getD (.bool true)) := getD_of_forall hv (h.lit _)
  have hn := hs.noteAttr name.spelling value tag.isComponent
  rw [applyAttr_eq]
  dsimp only
  split
  · refine (handsOut_request fun _ => Imports.handsOut_request _ _ _ _).bind_pure
      fun expand he => ?_
    have hpart := h.invoke he (List.forall_mem_singleton.mpr hval)
    exact ⟨hn.builder.pushFragment h hpart, hn.directives, hn.slots⟩
  · split
    · rw [applyDirective_eq]
      refine (parseDirective_yields h span name attrValue hv tag attrs).bind ?_ ?_
      · intro parsed
        split
        · exact steps_makesRequests.pure _
        · split
          · exact steps_makesRequests.bind (steps_makesRequests.ofExcept _)
              fun _ => steps_makesRequests.pure _
          · exact steps_makesRequests.pure _
      · intro parsed hp
        have hadd := hn.addParsed h hp hv
        split
        · exact yieldsBefore_pure ⟨hn.builder, hn.directives, hv⟩
        · split
          · have hm : Yields (ofExcept (parsed.models span)) fun models =>
                ∀ node ∈ models.props, P node :=
              yields_ofExcept fun models hm => modelPropsOf_of_forall h hp.values hp.args hm
            exact hm.before.bind_pure fun models hm =>
              ⟨hadd.builder.extend hm, hadd.directives, hadd.slots⟩
          · exact yieldsBefore_pure hadd
    · exact (yields_pure
        (hn.extend (List.forall_mem_singleton.mpr (h.pair (h.lit _) hval)))).before

/-- The props argument is made of the properties and fragments that were collected. -/
theorem finishProps_yields (h : Node.Closed imports P) {state : PropsState} (hs : state.MadeOf P) :
    YieldsBefore imports (finishProps state) (ElementProps.MadeOf P) := by
  have hf : YieldsBefore imports (request state.builder.finish) fun props =>
      ∀ node ∈ props, P node := by
    rw [request_finish_eq]
    split
    · exact yieldsBefore_pure (PropsBuilder.single_of_forall h hs.builder.properties)
    · have hparts := (hs.builder.flush h).fragments
      split
      · rename_i part he
        rw [he, List.forall_mem_singleton] at hparts
        exact yieldsBefore_pure (by simpa using hparts)
      · exact (handsOut_get _).bind_pure fun merge hm => by
          rintro _ ⟨⟩
          exact h.invoke hm hparts
  exact hf.bind_pure fun props hp => ⟨hp, hs.directives, hs.slots⟩

/-- A lone child of a component satisfies the condition, whether it is tested, thunked or passed
on. -/
theorem loneChild_yields (h : Node.Closed imports P) (ctx : Context) {child : Node}
    (hc : P child) : YieldsBefore imports (loneChild ctx child) P := by
  have hs : P (slotsOf [child]) := h.slotsOf (List.forall_mem_singleton.mpr hc)
  unfold loneChild
  split
  · exact yieldsBefore_pure hs
  · split
    · exact (handsOut_request Imports.handsOut_isSlot).bind_pure fun isSlot hi =>
        h.conditional (h.invoke hi (List.forall_mem_singleton.mpr hc)) hc hs
    · exact yieldsBefore_pure hs
  · refine yieldsBefore_pure ?_
    split
    · exact hc
    · exact hs
  · refine yieldsBefore_pure ?_
    split
    · exact h.objectOf_iff.mpr (List.forall_mem_singleton.mpr (h.defaultSlot hc))
    · exact hs

/-- The children argument of a component is made of its items and of the properties of its slots. -/
theorem componentChildren_yields (h : Node.Closed imports P) (ctx : Context) {items : List Node}
    (hi : ∀ node ∈ items, P node) {slots : Option Node} (hs : ∀ node ∈ slots, P node) :
    YieldsBefore imports (componentChildren ctx items slots) fun argument =>
      ∀ node ∈ argument, P node := by
  have hp : ∀ node ∈ slotProperties slots, P node := by
    unfold slotProperties
    split
    · exact List.forall_mem_nil _
    · exact (h.object_iff _ _).mp (hs _ rfl)
    · exact List.forall_mem_singleton.mpr ((h.spread_iff _ _).mpr (hs _ rfl))
  unfold componentChildren
  split
  · exact yieldsBefore_pure hs
  · refine (loneChild_yields h ctx (hi _ List.mem_cons_self)).bind_pure fun node hn => ?_
    rintro _ ⟨⟩
    exact hn
  · refine yieldsBefore_pure ?_
    rintro _ ⟨⟩
    have hslot := h.defaultSlot (h.thunk (h.arrayOf_iff.mpr hi))
    exact h.objectOf_iff.mpr (List.forall_mem_cons.mpr ⟨hslot, hp⟩)

/-- The children argument of a tag is made of its items and, on a component, of its slots. -/
theorem vnodeChildren_yields (h : Node.Closed imports P) (ctx : Context) (tag : ResolvedTag)
    {items : List Node} (hi : ∀ node ∈ items, P node) {slots : Option Node}
    (hs : ∀ node ∈ slots, P node) :
    YieldsBefore imports (vnodeChildren ctx tag items slots) fun argument =>
      ∀ node ∈ argument, P node := by
  unfold vnodeChildren
  split
  · exact yieldsBefore_pure (arrayIfAny_of_forall h hi)
  · split
    · exact componentChildren_yields h ctx hi hs
    · refine yieldsBefore_pure ?_
      unfold elementChildren
      split
      · split
        · simpa using hi
        · rintro _ ⟨⟩
          exact h.arrayOf_iff.mpr hi
      · exact arrayIfAny_of_forall h hi

/-- A flag is a number, annotated or not. -/
theorem flagLiteral_yields (h : Node.Closed imports P) (ctx : Context) (flag : PatchFlag)
    (span : Span) : YieldsBefore imports (flagLiteral ctx flag span) P := by
  unfold flagLiteral
  split
  · exact yieldsBefore_pure (h.lit _)
  · split
    · exact (yields_bind_of_forall fun _ => yields_pure (h.lit _)).before
    · exact yieldsBefore_pure (h.lit _)

/-- A construction is made of the factory, the tag, the props and the children, and of literals. -/
theorem construct_yields (h : Node.Closed imports P) (ctx : Context) {tag : Node} (ht : P tag)
    {props children : Option Node} (hp : ∀ node ∈ props, P node)
    (hc : ∀ node ∈ children, P node) (flag : PatchFlag) (names : Option NameSet) (span : Span) :
    YieldsBefore imports (construct ctx tag props children flag names span) P := by
  have hrequired : ∀ node ∈ [tag, props.getD .null, children.getD .null], P node := by
    have hprops : P (props.getD .null) := getD_of_forall hp (h.lit _)
    have hchildren : P (children.getD .null) := getD_of_forall hc (h.lit _)
    simp [ht, hprops, hchildren]
  refine (handsOut_request Imports.handsOut_factory).bind ?_ ?_
  · intro factory
    dsimp only
    split
    · exact steps_makesRequests.pure _
    · exact steps_makesRequests.bind (steps_makesRequests.flagLiteral _ _ _)
        fun _ => steps_makesRequests.pure _
  · intro factory hf
    dsimp only
    split
    · exact yieldsBefore_pure (h.invoke hf hrequired)
    · refine (flagLiteral_yields h ctx flag span).bind_pure fun literal hl => h.invoke hf ?_
      refine List.forall_mem_append.mpr ⟨hrequired, List.forall_mem_cons.mpr ⟨hl, ?_⟩⟩
      cases names with
      | none => exact List.forall_mem_nil _
      | some names =>
        refine List.forall_mem_singleton.mpr (h.arrayOf_iff.mpr fun node hn => ?_)
        obtain ⟨name, _, rfl⟩ := List.mem_map.mp hn
        exact h.lit _

/-- Whatever wraps the construction of an element is made of the construction and its directives. -/
theorem finishElement_yields (h : Node.Closed imports P) (ctx : Context) (span : Span)
    {tag : ResolvedTag} (ht : P tag.expr) {children : Children}
    (hc : ∀ node ∈ children.items, P node) {props : ElementProps} (hp : props.MadeOf P) :
    YieldsBefore imports (finishElement ctx span tag children props) P := by
  intro s node s' hr hl
  obtain ⟨argument, s₁, harg, hr⟩ := returns_bind_iff.mp hr
  obtain ⟨constructed, s₂, hnode, hr⟩ := returns_bind_iff.mp hr
  have hlast : MakesRequests (if props.directives.isEmpty then pure constructed
      else do return .invoke (← get .withDirectives) [constructed, .arrayOf props.directives]) := by
    split
    · exact steps_makesRequests.pure _
    · exact steps_makesRequests.bind (steps_makesRequests.get _ (by decide) (by decide))
        fun _ => steps_makesRequests.pure _
  have hl₂ := hlast.leadsTo hr hl
  have hl₁ := (steps_makesRequests.construct _ _ _ _ _ _ _).leadsTo hnode hl₂
  have hargument := vnodeChildren_yields h ctx tag hc hp.slots _ _ _ harg hl₁
  have hconstructed := construct_yields h ctx ht hp.props hargument _ _ _ _ _ _ hnode hl₂
  split at hr
  · obtain ⟨rfl, rfl⟩ := returns_pure_iff.mp hr
    exact hconstructed
  · refine (handsOut_get _).bind_pure (R := P) (fun name hn => h.invoke hn ?_) _ _ _ hr hl
    simpa [hconstructed] using h.arrayOf_iff.mpr hp.directives

/-- The construction of a fragment is made of its items and of exports of the runtime. -/
theorem finishFragment_yields (h : Node.Closed imports P) (ctx : Context) (span : Span)
    {children : Children} (hc : ∀ node ∈ children.items, P node) :
    YieldsBefore imports (finishFragment ctx span children) P :=
  (handsOut_get _).bind (fun _ => steps_makesRequests.construct _ _ _ _ _ _ _) fun _ hn =>
    construct_yields h ctx (h.ref hn) (by nofun) (arrayIfAny_of_forall h hc) _ _ _

end

end Compile

open Compile

section

variable {imports : Imports} {P : Node → Prop}

mutual

/-- A condition that compilation keeps holds of what markup compiles to if it holds of the
expressions in the markup and of the identifiers in its tags. -/
theorem Jsx.compile_yields (h : Node.Closed imports P) (ctx : Context) (markup : Jsx)
    (he : ∀ node ∈ markup.expressions, P node)
    (ht : ∀ part ∈ markup.parts, ∀ ident ∈ part.tagIdent?, P (.ident ident)) :
    YieldsBefore imports (markup.compile ctx) P := by
  cases markup with
  | element span opening attrs children closing =>
    rw [Jsx.expressions, List.forall_mem_append] at he
    rw [Jsx.parts, List.forall_mem_cons, List.forall_mem_append] at ht
    intro s node s' hr hl
    obtain ⟨tag, s₁, htag, hr⟩ := returns_bind_iff.mp hr
    obtain ⟨items, s₂, hitems, hr⟩ := returns_bind_iff.mp hr
    obtain ⟨state, s₃, hstate, hr⟩ := returns_bind_iff.mp hr
    obtain ⟨props, s₄, hprops, hr⟩ := returns_bind_iff.mp hr
    -- Each step returns before the ones after it, so what is handed out then is handed out now.
    have hl₄ := (steps_makesRequests.finishElement _ _ _ _ _).leadsTo hr hl
    have hl₃ := (steps_makesRequests.finishProps _).leadsTo hprops hl₄
    have hl₂ := (Attr.steps_compileAll steps_makesRequests _ _ _ _ _).leadsTo hstate hl₃
    have hl₁ := (Child.steps_compileAll steps_makesRequests _ _).leadsTo hitems hl₂
    have htagP := resolveTag_yields h ctx opening.name ht.1 _ _ _ htag hl₁
    have hitemsP := Child.compileAll_yields h ctx children he.2 ht.2.2 _ _ _ hitems hl₂
    have hstateP := Attr.compileAll_yields h ctx tag attrs attrs he.1 ht.2.1
      (PropsState.madeOf_new ctx.options) _ _ _ hstate hl₃
    have hpropsP := finishProps_yields h hstateP _ _ _ hprops hl₄
    exact finishElement_yields h ctx span htagP hitemsP hpropsP _ _ _ hr hl
  | fragment span opening closing children =>
    rw [Jsx.expressions] at he
    rw [Jsx.parts, List.forall_mem_cons] at ht
    exact (Child.compileAll_yields h ctx children he ht.2).bind
      (fun _ => steps_makesRequests.finishFragment _ _ _)
      fun items hi => finishFragment_yields h ctx span hi

/-- What the children of markup compile to are items that all satisfy the condition. -/
theorem Child.compileAll_yields (h : Node.Closed imports P) (ctx : Context)
    (children : List Child) (he : ∀ node ∈ Child.expressionsAll children, P node)
    (ht : ∀ part ∈ Child.partsAll children, ∀ ident ∈ part.tagIdent?, P (.ident ident)) :
    YieldsBefore imports (Child.compileAll ctx children) fun c => ∀ node ∈ c.items, P node := by
  cases children with
  | nil => exact yieldsBefore_pure (List.forall_mem_nil _)
  | cons child children =>
    rw [Child.expressionsAll, List.forall_mem_append] at he
    rw [Child.partsAll, List.forall_mem_append] at ht
    refine (Child.compile_yields h ctx child he.1 ht.1).bind ?_ fun first hf => ?_
    · exact fun _ => steps_makesRequests.bind (Child.steps_compileAll steps_makesRequests _ _)
        fun _ => steps_makesRequests.pure _
    · exact (Child.compileAll_yields h ctx children he.2 ht.2).bind_pure fun rest hr =>
        List.forall_mem_append.mpr ⟨hf, hr⟩

/-- A child compiles to items that satisfy the condition: text to a string, markup to its
construction. -/
theorem Child.compile_yields (h : Node.Closed imports P) (ctx : Context) (child : Child)
    (he : ∀ node ∈ child.expressions, P node)
    (ht : ∀ part ∈ child.parts, ∀ ident ∈ part.tagIdent?, P (.ident ident)) :
    YieldsBefore imports (child.compile ctx) fun c => ∀ node ∈ c.items, P node := by
  cases child with
  | text span value raw =>
    refine yieldsBefore_pure ?_
    unfold Children.ofText
    dsimp only
    split
    · exact List.forall_mem_nil _
    · exact List.forall_mem_singleton.mpr (h.lit _)
  | container span body => exact yieldsBefore_pure he
  | empty span inner => exact yieldsBefore_pure (List.forall_mem_nil _)
  | spread span operand =>
    rw [Child.expressions, List.forall_mem_singleton] at he
    exact yieldsBefore_pure (List.forall_mem_singleton.mpr ((h.spread_iff _ _).mpr he))
  | jsx markup =>
    exact (Jsx.compile_yields h ctx markup he ht).bind_pure fun node hn =>
      List.forall_mem_singleton.mpr hn

/-- The attributes of a tag leave a state made of what satisfies the condition if they begin with
one. -/
theorem Attr.compileAll_yields (h : Node.Closed imports P) (ctx : Context) (tag : ResolvedTag)
    (all attrs : List Attr) (he : ∀ node ∈ Attr.expressionsAll attrs, P node)
    (ht : ∀ part ∈ Attr.partsAll attrs, ∀ ident ∈ part.tagIdent?, P (.ident ident))
    {state : PropsState} (hs : state.MadeOf P) :
    YieldsBefore imports (Attr.compileAll ctx tag all state attrs) (PropsState.MadeOf P) := by
  cases attrs with
  | nil => exact yieldsBefore_pure hs
  | cons attr attrs =>
    rw [Attr.expressionsAll, List.forall_mem_append] at he
    rw [Attr.partsAll, List.forall_mem_append] at ht
    exact (Attr.compile_yields h ctx tag all attr he.1 ht.1 hs).bind
      (fun _ => Attr.steps_compileAll steps_makesRequests _ _ _ _ _)
      fun next hn => Attr.compileAll_yields h ctx tag all attrs he.2 ht.2 hn

theorem Attr.compile_yields (h : Node.Closed imports P) (ctx : Context) (tag : ResolvedTag)
    (all : List Attr) (attr : Attr) (he : ∀ node ∈ attr.expressions, P node)
    (ht : ∀ part ∈ attr.parts, ∀ ident ∈ part.tagIdent?, P (.ident ident))
    {state : PropsState} (hs : state.MadeOf P) :
    YieldsBefore imports (attr.compile ctx tag all state) (PropsState.MadeOf P) := by
  cases attr with
  | named span name value =>
    exact (AttrValue.compile_yields h ctx value he ht).bind
      (fun _ => steps_makesRequests.applyAttr _ _ _ _ _ _ _ _)
      fun node hn => applyAttr_yields h ctx span name value hn tag all hs
  | spread dots operand =>
    rw [Attr.expressions, List.forall_mem_singleton] at he
    exact yieldsBefore_pure ⟨hs.builder.pushSpread h he, hs.directives, hs.slots⟩

theorem AttrValue.compile_yields (h : Node.Closed imports P) (ctx : Context) (value : AttrValue)
    (he : ∀ node ∈ value.expressions, P node)
    (ht : ∀ part ∈ value.parts, ∀ ident ∈ part.tagIdent?, P (.ident ident)) :
    YieldsBefore imports (value.compile ctx) fun compiled => ∀ node ∈ compiled, P node := by
  cases value with
  | bare => exact yieldsBefore_pure nofun
  | lit value =>
    refine yieldsBefore_pure ?_
    rintro _ ⟨⟩
    split
    · exact h.lit _
    · exact h.lit _
  | container span body =>
    rw [AttrValue.expressions, List.forall_mem_singleton] at he
    refine yieldsBefore_pure ?_
    rintro _ ⟨⟩
    exact he
  | empty span inner => exact yieldsBefore_pure nofun
  | jsx markup =>
    refine (Jsx.compile_yields h ctx markup he ht).bind_pure fun node hn => ?_
    rintro _ ⟨⟩
    exact hn

end

end

end JsxVNode
