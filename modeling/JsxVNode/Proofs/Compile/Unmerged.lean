import JsxVNode.Proofs.Compile.PropNames

/-!
# Props that are not merged

If the options keep parts from being merged, the operands of spreads are inlined, and
the props argument of an element is one object literal or one expression. A map of
handlers that is expanded is a part of its own even then, so that it must not stand
beside another attribute with properties. For markup in which no such map does, the
merging function is never requested.
-/

namespace JsxVNode

open Compile

/-- The properties that a spread attribute is inlined as. -/
def Attr.inlined : Attr → List Node
  | .spread _ (.object _ properties) => properties
  | .spread _ operand => [.spreadOf operand]
  | .named .. => []

/-- Whether an element expands a map of handlers beside another attribute that adds to its props
argument. -/
def Jsx.mixesHandlers (options : Options) : Jsx → Bool
  | .element _ _ attrs _ _ =>
    attrs.any (·.isExpanded options) && decide (1 < attrs.countP Attr.addsProps)
  | .fragment .. => false

/-- A spread that adds nothing is inlined as nothing. -/
theorem Attr.inlined_eq_nil {dots : Span} {operand : Node}
    (h : (Attr.spread dots operand).addsProps = false) :
    (Attr.spread dots operand).inlined = [] := by
  unfold Attr.addsProps at h
  split at h
  · rename_i he
    cases he
  · rename_i he
    cases he
    rfl
  · cases h

/-- A map of handlers is no directive. -/
theorem Attr.addsProps_of_isExpanded {options : Options} {attr : Attr}
    (h : attr.isExpanded options = true) : attr.addsProps = true := by
  cases attr with
  | spread dots operand => cases h
  | named span name value =>
    simp only [Attr.isExpanded, Bool.and_eq_true, Bool.or_eq_true, beq_iff_eq] at h
    have hdirective : isDirectiveName name.spelling = false := by
      rcases h.2 with hname | hname
      · rw [hname]
        rfl
      · rw [hname]
        rfl
    rw [Attr.addsProps, hdirective]
    rfl

/-- What the props argument of an element with the given attributes can be if no parts are merged:
`null`, an object literal in which nothing but inlined spreads is spread, the operand of such a
spread, or the call that expands a map of handlers. -/
inductive Node.Unmerged (options : Options) (imports : Imports) (attrs : List Attr) :
    Node → Prop where
  | nothing : Unmerged options imports attrs .null
  | object {properties : List Node}
      (hspreads : ∀ property ∈ properties, property.isSpread = true →
        ∃ attr ∈ attrs, property ∈ attr.inlined) :
      Unmerged options imports attrs (.objectOf properties)
  | operand {attr : Attr} {dots : Span} {operand : Node} (hattr : attr ∈ attrs)
      (hspread : .spread dots operand ∈ attr.inlined) : Unmerged options imports attrs operand
  | expansion {attr : Attr} {call : Node} (hattr : attr ∈ attrs)
      (hexpanded : attr.isExpanded options = true) (hcall : call.IsExpansion imports) :
      Unmerged options imports attrs call

/-- What a props argument can be for some attributes it can be for more of them. -/
theorem Node.Unmerged.mono {options : Options} {imports : Imports} {attrs attrs' : List Attr}
    {props : Node} (hsub : attrs ⊆ attrs') (h : props.Unmerged options imports attrs) :
    props.Unmerged options imports attrs' := by
  cases h with
  | nothing => exact .nothing
  | object hspreads =>
    refine .object fun property hp hspread => ?_
    obtain ⟨attr, hattr, hmem⟩ := hspreads property hp hspread
    exact ⟨attr, hsub hattr, hmem⟩
  | operand hattr hspread => exact .operand (hsub hattr) hspread
  | expansion hattr hexpanded hcall => exact .expansion (hsub hattr) hexpanded hcall

/-- Folding repeated properties adds no spread. -/
theorem Node.keptByFold_spreads (attrs : List Attr) :
    KeptByFold fun property => property.isSpread = true →
      ∃ attr ∈ attrs, property ∈ attr.inlined :=
  fun _ _ _ _ _ _ _ hspread => nomatch hspread

/-- What is collected for the props argument from some attributes without merging. -/
structure PropsBuilder.Inlines (b : PropsBuilder) (options : Options) (imports : Imports)
    (attrs : List Attr) : Prop where
  unmerged : b.mergeProps = false
  /-- Only spreads that were inlined are spread. -/
  spreads : ∀ property ∈ b.properties, property.isSpread = true →
    ∃ attr ∈ attrs, property ∈ attr.inlined
  /-- Each part could be the argument on its own. -/
  parts : ∀ part ∈ b.fragments, part.Unmerged options imports attrs
  /-- There are no more parts than attributes that add to the argument. -/
  count : b.flush.fragments.length ≤ attrs.countP Attr.addsProps
  /-- Only maps of handlers end a part. -/
  plain : (∀ attr ∈ attrs, attr.isExpanded options = false) → b.fragments = []

namespace PropsBuilder

variable {b : PropsBuilder} {options : Options} {imports : Imports} {attrs : List Attr}

/-- A spread is inlined. -/
theorem pushSpread_of_unmerged (hm : b.mergeProps = false) (dots : Span) (operand : Node) :
    b.pushSpread operand = b.extend (Attr.spread dots operand).inlined := by
  unfold pushSpread
  rw [if_neg (Bool.eq_false_iff.mp hm)]
  cases operand <;> rfl

/-- Properties make no more than one part. -/
theorem length_flush_extend (b : PropsBuilder) (properties : List Node) :
    (b.extend properties).flush.fragments.length ≤ b.flush.fragments.length + 1 := by
  have hbefore : b.fragments.length ≤ b.flush.fragments.length := by
    rcases b.fragments_flush with hf | hf
    · exact hf ▸ Nat.le_refl _
    · rw [hf, List.length_append]
      exact Nat.le_add_right _ _
  have hafter : (b.extend properties).flush.fragments.length ≤ b.fragments.length + 1 := by
    rcases (b.extend properties).fragments_flush with hf | hf
    · rw [hf]
      exact Nat.le_succ _
    · rw [hf, List.length_append]
      exact Nat.le_refl _
  omega

theorem inlines_new : (new false).Inlines options imports [] :=
  ⟨rfl, List.forall_mem_nil _, List.forall_mem_nil _, Nat.le_refl _, fun _ => rfl⟩

/-- Properties that are added stay together with those before them. -/
theorem Inlines.extend (h : b.Inlines options imports attrs) {attr : Attr} {properties : List Node}
    (hspreads : ∀ property ∈ properties, property.isSpread = true → property ∈ attr.inlined)
    (hadds : attr.addsProps = false → properties = []) :
    (b.extend properties).Inlines options imports (attrs ++ [attr]) := by
  have hself : attr ∈ attrs ++ [attr] := List.mem_append_right _ (List.mem_singleton_self _)
  have hsub : attrs ⊆ attrs ++ [attr] := List.subset_append_left _ _
  refine ⟨h.unmerged, List.forall_mem_append.mpr ⟨?_, ?_⟩, fun part hpart => ?_, ?_, fun hall => ?_⟩
  · intro property hp hspread
    obtain ⟨other, hother, hmem⟩ := h.spreads property hp hspread
    exact ⟨other, hsub hother, hmem⟩
  · intro property hp hspread
    exact ⟨attr, hself, hspreads property hp hspread⟩
  · exact (h.parts part hpart).mono hsub
  · rw [List.countP_append, List.countP_singleton]
    have hcount := h.count
    cases ha : attr.addsProps with
    | true =>
      have hlength := b.length_flush_extend properties
      rw [if_pos rfl]
      omega
    | false =>
      rw [hadds ha, PropsBuilder.extend, List.append_nil]
      exact hcount
  · exact h.plain fun other hother => hall other (hsub hother)

/-- What was added since the last part could be the argument too. -/
theorem Inlines.parts_flush (h : b.Inlines options imports attrs) :
    ∀ part ∈ b.flush.fragments, part.Unmerged options imports attrs := by
  rcases b.fragments_flush with hf | hf
  · rw [hf]
    exact h.parts
  · rw [hf]
    refine List.forall_mem_append.mpr ⟨h.parts, List.forall_mem_singleton.mpr ?_⟩
    exact .object ((Node.keptByFold_spreads attrs).foldProperties h.spreads)

/-- An expanded map of handlers is a part of its own. -/
theorem Inlines.pushFragment (h : b.Inlines options imports attrs) {attr : Attr} {call : Node}
    (hexpanded : attr.isExpanded options = true) (hcall : call.IsExpansion imports) :
    (b.pushFragment call).Inlines options imports (attrs ++ [attr]) := by
  have hself : attr ∈ attrs ++ [attr] := List.mem_append_right _ (List.mem_singleton_self _)
  have hnone : (b.pushFragment call).properties = [] := b.properties_flush
  refine ⟨b.mergeProps_flush.trans h.unmerged, ?_, List.forall_mem_append.mpr ⟨?_, ?_⟩, ?_, ?_⟩
  · rw [hnone]
    exact List.forall_mem_nil _
  · intro part hpart
    exact (h.parts_flush part hpart).mono (List.subset_append_left _ _)
  · exact List.forall_mem_singleton.mpr (.expansion hself hexpanded hcall)
  · have hcount := h.count
    have hlength : (b.pushFragment call).fragments.length = b.flush.fragments.length + 1 :=
      List.length_append
    rw [flush_of_properties_eq_nil hnone, hlength, List.countP_append, List.countP_singleton,
      if_pos (Attr.addsProps_of_isExpanded hexpanded)]
    exact Nat.add_le_add_right hcount 1
  · intro hall
    rw [hall attr hself] at hexpanded
    cases hexpanded

/-- One more contribution is collected. -/
theorem Inlines.add (h : b.Inlines options imports attrs) {attr : Attr} {c : Contribution}
    (hc : attr.Contributes options imports c) :
    (b.add c.piece).Inlines options imports (attrs ++ [attr]) := by
  cases hc with
  | spread dots operand =>
    change (b.pushSpread operand).Inlines options imports _
    rw [pushSpread_of_unmerged h.unmerged dots]
    exact h.extend (fun _ hp _ => hp) Attr.inlined_eq_nil
  | handlers arg hexpanded hexpand hnames =>
    exact h.pushFragment hexpanded ⟨_, arg, hexpand, rfl⟩
  | properties hexpanded hspread hnames hknown hadds =>
    refine h.extend (fun property hp hs => ?_) hadds
    rw [hspread property hp] at hs
    cases hs

/-- The contributions of further attributes are collected. -/
theorem Inlines.addAll (h : b.Inlines options imports attrs) {more : List Attr}
    {contributions : List Contribution}
    (hcs : List.Forall₂ (Attr.Contributes options imports) more contributions) :
    (b.addAll contributions).Inlines options imports (attrs ++ more) := by
  induction hcs generalizing b attrs with
  | nil =>
    rw [List.append_nil]
    exact h
  | @cons attr c more contributions hc _ ih =>
    have hrest := ih (h.add hc)
    rw [List.append_assoc] at hrest
    exact hrest

/-- There is no more than one part if no map of handlers stands beside other attributes. -/
theorem Inlines.length_le_one (h : b.Inlines options imports attrs)
    (hmixed : (attrs.any (·.isExpanded options) && decide (1 < attrs.countP Attr.addsProps)) =
      false) : b.flush.fragments.length ≤ 1 := by
  rcases Bool.and_eq_false_iff.mp hmixed with hany | hcount
  · have hplain : b.fragments = [] := by
      refine h.plain fun attr hattr => ?_
      exact Bool.eq_false_iff.mpr (List.any_eq_false.mp hany attr hattr)
    rcases b.fragments_flush with hf | hf
    · rw [hf, hplain]
      exact Nat.zero_le _
    · rw [hf, hplain]
      exact Nat.le_refl _
  · have hle := h.count
    rw [decide_eq_false_iff_not] at hcount
    omega

end PropsBuilder

/-- The finished props argument of no more than one part. -/
theorem PropsBuilder.Finished.unmerged {b : PropsBuilder} {merge : Option String} {props : Node}
    (h : b.Finished merge props) {options : Options} {imports : Imports} {attrs : List Attr}
    (hb : b.Inlines options imports attrs) (hlength : b.flush.fragments.length ≤ 1) :
    props.Unmerged options imports attrs := by
  cases h with
  | nothing hf hp => exact .nothing
  | operand hf hp =>
    obtain ⟨attr, hattr, hmem⟩ := hb.spreads _ (by rw [hp]; exact List.mem_singleton_self _) rfl
    exact .operand hattr hmem
  | object hf => exact .object ((Node.keptByFold_spreads attrs).foldProperties hb.spreads)
  | part hf =>
    apply hb.parts_flush
    rw [hf]
    exact List.mem_singleton_self _
  | merged hf hm => omega

/-- If the options keep parts from being merged and an element has no map of handlers beside other
attributes, its props argument is a single expression or object literal. -/
theorem Jsx.unmerged_compile {ctx : Context} (hm : ctx.options.mergeProps = false) {span : Span}
    {opening : Opening} {attrs : List Attr} {children : List Child} {closing : Option Closing}
    (hmixed : (Jsx.element span opening attrs children closing).mixesHandlers ctx.options = false)
    {s s' : Session} {node : Node}
    (h : Returns ((Jsx.element span opening attrs children closing).compile ctx) s node s') :
    node.constructionProps.Unmerged ctx.options s'.imports attrs := by
  obtain ⟨contributions, hcs, hbuilt⟩ := Jsx.builtFrom_compile h
  have hprops := hbuilt.props
  rw [hm] at hprops
  have hb := PropsBuilder.inlines_new.addAll hcs
  exact hprops.unmerged hb (hb.length_le_one hmixed)

/-- A request is not one for the merging function. -/
def Compile.sparesMerging (_ : Option String) (request : Imports.Request) : Prop :=
  request ≠ .runtime .mergeProps

/-- All steps but the last one for the props argument do without the function that merges. -/
theorem Compile.plainSteps_sparesMerging : PlainSteps (RequestsWithin sparesMerging) :=
  plainSteps_requestsWithin (fun _ _ _ hm he => hm (Imports.Request.runtime.inj he))
    (fun _ => nofun) (fun _ => nofun) nofun

/-- The props of an element are put together without the merging function. -/
theorem Jsx.propsStep_sparesMerging {ctx : Context} (hm : ctx.options.mergeProps = false)
    {part : Jsx} (hmixed : part.mixesHandlers ctx.options = false) :
    part.PropsStep (RequestsWithin sparesMerging) ctx := by
  cases part with
  | fragment span opening closing children => exact trivial
  | element span opening attrs children closing =>
    intro tag hsorted
    refine hsorted.bind_of_returns fun s state s' hstate => ?_
    obtain ⟨contributions, hcs, hgathers⟩ := Attr.gathers_compileAll hstate
    apply plainSteps_sparesMerging.finishProps
    have hnew : (PropsState.new ctx.options).builder = .new false := congrArg PropsBuilder.new hm
    rw [hgathers.builder, hnew]
    exact (PropsBuilder.inlines_new.addAll hcs).length_le_one hmixed

/-- Markup in which no map of handlers stands beside other attributes is compiled without the
merging function, if the options keep parts from being merged. -/
theorem Jsx.sparesMerging_compile {ctx : Context} (hm : ctx.options.mergeProps = false)
    {markup : Jsx} (hmixed : ∀ part ∈ markup.parts, part.mixesHandlers ctx.options = false) :
    RequestsWithin sparesMerging (markup.compile ctx) :=
  Jsx.plainSteps_compile plainSteps_sparesMerging ctx markup fun part hpart =>
    Jsx.propsStep_sparesMerging hm (hmixed part hpart)

end JsxVNode
