import JsxVNode.Proofs.Compile.Unmerged
import JsxVNode.Proofs.Pass.References

/-!
# Programs without merged props

If the options keep parts from being merged, a compiled program neither loads nor calls
the merging function, and every props argument is a single object literal or
expression. This holds of programs in which no map of handlers is expanded beside
another attribute with properties; a visit keeps it that way, since it changes neither
the names nor the number of attributes. For other programs it fails: the parts of such
an element are merged whatever the options say.
-/

namespace JsxVNode

open Compile

/-- A visit keeps which attributes are maps of handlers to be expanded. -/
theorem Attr.isExpanded_visit (options : Options) (ctx : Context) (attr : Attr) (pass : Pass) :
    (pass.exec (attr.visit ctx)).1.isExpanded options = attr.isExpanded options := by
  cases attr <;> rfl

/-- An attribute that adds nothing to the props argument adds nothing after a visit. -/
theorem Attr.addsProps_visit (ctx : Context) {attr : Attr} (pass : Pass)
    (h : (pass.exec (attr.visit ctx)).1.addsProps = true) : attr.addsProps = true := by
  cases attr with
  | named span name value => exact h
  | spread dots operand =>
    cases operand with
    | object span properties =>
      cases properties with
      | nil => exact h
      | cons property properties => rfl
    | _ => rfl

/-- Some attribute is expanded after a visit if and only if one was before. -/
theorem Attr.any_isExpanded_visitAll (options : Options) (ctx : Context) (attrs : List Attr)
    (pass : Pass) :
    (pass.exec (Attr.visitAll ctx attrs)).1.any (·.isExpanded options) =
      attrs.any (·.isExpanded options) := by
  induction attrs generalizing pass with
  | nil => rfl
  | cons attr attrs ih =>
    rw [List.any_cons, ← ih (pass.exec (attr.visit ctx)).2,
      ← attr.isExpanded_visit options ctx pass]
    rfl

/-- A visit adds no attributes that contribute to the props argument. -/
theorem Attr.countP_addsProps_visitAll (ctx : Context) (attrs : List Attr) (pass : Pass) :
    (pass.exec (Attr.visitAll ctx attrs)).1.countP Attr.addsProps ≤
      attrs.countP Attr.addsProps := by
  induction attrs generalizing pass with
  | nil => exact Nat.le_refl _
  | cons attr attrs ih =>
    have hrest := ih (pass.exec (attr.visit ctx)).2
    change ((pass.exec (attr.visit ctx)).1 ::
      ((pass.exec (attr.visit ctx)).2.exec (Attr.visitAll ctx attrs)).1).countP Attr.addsProps ≤ _
    rw [List.countP_cons, List.countP_cons]
    by_cases hadds : (pass.exec (attr.visit ctx)).1.addsProps = true
    · rw [if_pos hadds, if_pos (Attr.addsProps_visit ctx pass hadds)]
      exact Nat.add_le_add_right hrest 1
    · rw [if_neg hadds]
      exact Nat.le_trans hrest (Nat.le_add_right _ _)

/-- No map of handlers comes to stand beside another attribute in a visit. -/
theorem Jsx.mixesHandlers_visit {options : Options} (ctx : Context) {markup : Jsx}
    (h : markup.mixesHandlers options = false) (pass : Pass) :
    (pass.exec (markup.visit ctx)).1.mixesHandlers options = false := by
  cases markup with
  | fragment span opening closing children => rfl
  | element span opening attrs children closing =>
    have hcount := Attr.countP_addsProps_visitAll ctx attrs pass
    change ((pass.exec (Attr.visitAll ctx attrs)).1.any (·.isExpanded options) &&
      decide (1 < (pass.exec (Attr.visitAll ctx attrs)).1.countP Attr.addsProps)) = false
    rw [Attr.any_isExpanded_visitAll]
    refine Bool.and_eq_false_iff.mpr ((Bool.and_eq_false_iff.mp h).imp id fun hle => ?_)
    rw [decide_eq_false_iff_not] at hle ⊢
    omega

/-- A pass over such markup does not request the merging function. -/
theorem Pass.keptOn_sparesMerging {ctx : Context} (hm : ctx.options.mergeProps = false) :
    Pass.KeptOn ctx (fun markup => markup.mixesHandlers ctx.options = false)
      (Pass.RequestedWithin Compile.sparesMerging) where
  refl := .refl
  trans := .trans
  visit h pass := Jsx.mixesHandlers_visit ctx h pass
  replace h pass := Pass.requestedWithin_replace (Jsx.sparesMerging_compile hm h) pass

/-- Options by which maps of handlers are expanded and parts of props are not merged. -/
def Options.inlining : Options :=
  { Options.default with transformOn := true, mergeProps := false }

namespace Program

/-- The name under which the merging function is known in a program, if it is. -/
def mergePropsName (program : Program) : String :=
  Imports.Request.localName (Bindings.ofProgram program).names (.runtime .mergeProps)

/-- How a compiled program does without the merging function. Its body is `loads`, which bind what
is loaded from other modules, then `tests`, which declare the slot test, then the items of the
program it comes from. -/
structure Unmerged (options : Options) (annotate : Bool) (program : Program)
    (loads tests items : List Node) : Prop where
  body : (program.compile options annotate).program.body = loads ++ tests ++ items
  length : items.length = program.body.length
  /-- The merging function is not loaded. -/
  loading : ∀ entry ∈ loads.flatMap Node.loadedImports,
    entry.imported ≠ .named Export.mergeProps.name
  /-- Nothing is bound to its name. -/
  binding : ⟨program.mergePropsName, 0⟩ ∉ (loads ++ tests).flatMap Node.boundIds
  /-- The slot test calls another function. -/
  testing : tests = [] ∨ ∃ isVNode, tests = [slotTestDeclaration program.slotTestName isVNode] ∧
    isVNode ≠ program.mergePropsName
  /-- No reference to it is generated, unless the options give its name to the node factory. -/
  calling : ∀ reference ∈ Node.referencesAll false items,
    reference.id = ⟨program.mergePropsName, 0⟩ →
      program.Mentions reference.id ∨ options.pragma = some program.mergePropsName
  /-- The props argument of every element, whenever it is visited and compiled, is `null`, an object
  literal or a single expression. -/
  props : ∀ (span : Span) (opening : Opening) (attrs : List Attr) (children : List Child)
    (closing : Option Closing),
    Jsx.element span opening attrs children closing ∈ Node.markupsAll program.body →
    ∀ (pass : Pass) (s s' : Session) (node : Node),
      Returns ((pass.exec ((Jsx.element span opening attrs children closing).visit
        (program.context options annotate))).1.compile (program.context options annotate))
        s node s' →
      node.constructionProps.Unmerged options s'.imports
        (pass.exec (Attr.visitAll (program.context options annotate) attrs)).1

section

variable {options : Options} {annotate : Bool} {program : Program}

/-- The requests of a compilation without merging serve its imports. -/
theorem exists_servedBy_of_unmerged (annotate : Bool) (hm : options.mergeProps = false)
    (hmixed : ∀ markup ∈ Node.markupsAll program.body, markup.mixesHandlers options = false) :
    ∃ requests, Imports.ServedBy options (Bindings.ofProgram program).names requests
        (program.requestedImports options annotate) ∧
      .runtime .mergeProps ∉ requests := by
  have hctx : (program.context options annotate).options.mergeProps = false := hm
  obtain ⟨requests, hr, hspared⟩ := Node.keptOn_visitAll (Pass.keptOn_sparesMerging hctx)
    program.body hmixed ⟨.new (program.context options annotate), 0, none⟩
  refine ⟨requests, ?_, fun hmem => hspared _ hmem rfl⟩
  rw [requestedImports, visited, hr]
  exact Imports.servedBy_serveAll options (.ofProgram program) requests

end

/-- The options can keep parts of props from being merged. If they do, and no element of a program
expands a map of handlers beside another attribute with properties, then the program, if it
compiles, neither loads nor calls the merging function, and every props argument is `null`, a
single object literal or a single expression. -/
theorem compile_unmerged (options : Options) (annotate : Bool) (program : Program) (count : Nat)
    (hm : options.mergeProps = false)
    (hmixed : ∀ markup ∈ Node.markupsAll program.body, markup.mixesHandlers options = false)
    (h : (program.compile options annotate).result = .ok count) :
    ∃ loads tests items, program.Unmerged options annotate loads tests items := by
  have hf := fault_eq_none_of_result h
  have hknown := known_of_mem_references hf
  obtain ⟨requests, hserved, hnot⟩ := exists_servedBy_of_unmerged annotate hm hmixed
  have hmerge : Export.mergeProps ≠ .isVNode := nofun
  have hloaded := (program.requestedImports options annotate).loadedImports_loads program.kind
  refine ⟨(program.requestedImports options annotate).loads program.kind,
    (program.requestedImports options annotate).slotTestDeclarations,
    (program.visited options annotate).1,
    { body := ?_
      length := Node.length_visitAll _ program.body _
      loading := ?_
      binding := hserved.localId_not_mem_boundIds hmerge hnot program.kind
      testing := ?_
      calling := ?_
      props := ?_ }⟩
  · rw [compile_of_fault_eq_none hf, ← Imports.declarations_eq]
    rfl
  · intro entry hentry
    exact hserved.imported_ne hmerge hnot entry (hloaded.mem_iff.mp hentry)
  · rw [hserved.slotTestDeclarations_eq]
    split
    · refine Or.inr ⟨_, rfl, fun hname => ?_⟩
      cases Imports.Request.localName_injective _ hname
    · exact Or.inl rfl
  · intro reference hreference hid
    rcases hknown reference hreference with hmention | ⟨name, hn, he⟩ | hevent
    · exact Or.inl hmention
    · have hname : name = program.mergePropsName := congrArg Id.name (he.symm.trans hid)
      rw [hname] at hn
      exact Or.inr (hserved.pragma_of_handsOut hmerge hnot hn)
    · exact absurd (hevent.1.symm.trans hid) (event_ne_localName _ _)
  · intro span opening attrs children closing hmem pass s s' node hreturns
    have hctx : (program.context options annotate).options.mergeProps = false := hm
    have hvisited := Jsx.mixesHandlers_visit (program.context options annotate)
      (hmixed _ hmem) pass
    exact Jsx.unmerged_compile hctx hvisited hreturns

/-- The module `<div {...p} id={x}><p on={h} v-show={y}/></div>`. -/
def inlinedSpread : Program where
  kind := .module
  span := .dummy
  interpreter := none
  body := [.plain .expressionStatement [.jsx (.element .dummy (.closed "div")
    [.spread .dummy (.ref "p"), .braced "id" "x"]
    [.jsx (.element .dummy (.closed "p") [.braced "on" "h", .braced "v-show" "y"] [] none)]
    none)]]

/-- Its spread is inlined, and its map of handlers has only a directive beside it. -/
theorem inlinedSpread_compile_unmerged :
    (inlinedSpread.compile .inlining false).result = .ok 1 ∧
      Options.inlining.mergeProps = false ∧
      (∀ markup ∈ Node.markupsAll inlinedSpread.body, markup.mixesHandlers .inlining = false) ∧
      ∃ loads tests items, inlinedSpread.Unmerged .inlining false loads tests items := by
  have hmixed : ∀ markup ∈ Node.markupsAll inlinedSpread.body,
      markup.mixesHandlers .inlining = false := by decide
  exact ⟨rfl, rfl, hmixed, compile_unmerged .inlining false inlinedSpread 1 rfl hmixed rfl⟩

/-- The module `<div id={x} on={h}/>`. -/
def handlersBeside : Program where
  kind := .module
  span := .dummy
  interpreter := none
  body := [.plain .expressionStatement [.jsx (.element .dummy (.closed "div")
    [.braced "id" "x", .braced "on" "h"] [] none)]]

/-- Its attribute and its map of handlers are merged although the options say otherwise. -/
theorem handlersBeside_merged :
    let call : Node := .invoke "_createVNode" [.str "div",
      .invoke "_mergeProps" [.objectOf [.pair (.str "id") (.ref "x")],
        .invoke "_transformOn" [.ref "h"]], .null, .int 8 .dummy, .arrayOf [.str "id"]]
    Options.inlining.mergeProps = false ∧
      (handlersBeside.compile .inlining false).result = .ok 1 ∧
      ∃ loads, (handlersBeside.compile .inlining false).program.body =
          loads ++ [.plain .expressionStatement [call]] ∧
        ⟨"vue", .named "mergeProps", "_mergeProps"⟩ ∈ loads.flatMap Node.loadedImports := by
  intro call
  refine ⟨rfl, rfl, (handlersBeside.requestedImports .inlining false).declarations .module,
    rfl, ?_⟩
  decide +kernel

end Program

end JsxVNode
