import JsxVNode.Proofs.Imports.Declarations
import JsxVNode.Proofs.Pass.Frame
import JsxVNode.Proofs.Pass.MarkupFree
import JsxVNode.Proofs.Tree.References

/-!
# No reference dangles

What a compiled program refers to occurs in the program it comes from, is the name of
the node factory in the options, is the value that a generated handler is called with,
or is bound by exactly one of the declarations at the head of the file.
-/

namespace JsxVNode

/-- A reference that does not dangle: to an identifier that is known already, to a name that was
handed out, or inside a handler to the value it is called with. -/
def Reference.Known (known : Id → Prop) (imports : Imports) (reference : Reference) : Prop :=
  known reference.id ∨ (∃ name, imports.HandsOut name ∧ reference.id = ⟨name, 0⟩) ∨
    reference.id = .event ∧ reference.inHandler = true

/-- Compilation makes no dangling reference. -/
theorem Node.closed_refersOnly (known : Id → Prop) (imports : Imports) :
    Node.Closed imports (Node.RefersOnly (Reference.Known known imports)) where
  hole _ := List.forall_mem_nil _
  lit _ _ := List.forall_mem_nil _
  paren_iff _ _ := Iff.rfl
  array_iff _ _ := Node.refersOnly_all_iff
  object_iff _ _ := Node.refersOnly_all_iff
  spread_iff _ _ := Iff.rfl
  pair := Node.RefersOnly.pair
  pair_ref _ _ hv := hv
  pair_value := Node.RefersOnly.pair_value
  pair_of_pair := Node.RefersOnly.pair_of_pair
  call _ _ _ _ hc ha b :=
    List.forall_mem_append.mpr ⟨hc b, Node.refersOnly_all_iff.mpr ha b⟩
  group := Node.refersOnly_all_iff.mpr
  form label _ := Node.refersOnly_form label
  member property := Node.refersOnly_member property
  handler := Node.refersOnly_handler (Or.inr (Or.inr ⟨rfl, rfl⟩))
  ref hn := Node.refersOnly_ident_iff.mpr fun _ => Or.inr (Or.inl ⟨_, hn, rfl⟩)

/-- No symbol is known under the name of the value that a handler is called with. -/
theorem event_ne_localName (declared : List String) (request : Imports.Request) :
    Id.event ≠ ⟨request.localName declared, 0⟩ := by
  have hstems : ∀ other ∈ Imports.Request.all,
      Imports.stem Id.event.name ≠ Imports.stem other.base := by decide
  intro he
  have hstem := congrArg Imports.stem (congrArg Id.name he)
  rw [Imports.Request.stem_localName] at hstem
  exact hstems request request.mem_all hstem

namespace Program

/-- An identifier occurs in a program: as a node at any depth, or as the start of a tag. -/
def Mentions (program : Program) (id : Id) : Prop :=
  (∃ ident : Ident, .ident ident ∈ Node.nodesAll program.body ∧ ident.id = id) ∨
    ∃ markup ∈ Node.markupsAll program.body, ∃ ident ∈ markup.tagIdent?, ident.id = id

/-- The identifiers of a program and of its tags are among those that it mentions. -/
theorem identsSatisfy_mentions (program : Program) (imports : Imports) :
    IdentsSatisfy (Node.RefersOnly (Reference.Known program.Mentions imports))
      (Node.nodesAll program.body) (Node.markupsAll program.body) := by
  constructor
  · intro node hm ident hi
    refine Node.refersOnly_ident_iff.mpr fun _ => Or.inl (Or.inl ⟨ident, ?_, rfl⟩)
    cases node with
    | ident name =>
      cases hi
      exact hm
    | _ => cases hi
  · intro markup hm ident hi
    exact Node.refersOnly_ident_iff.mpr fun _ => Or.inl (Or.inr ⟨markup, hm, ident, hi, rfl⟩)

/-- The name of the slot test in a program. -/
def slotTestName (program : Program) : String :=
  Imports.Request.slotTest.localName (Bindings.ofProgram program).names

/-- How the references of a compiled program are resolved. Its body is `loads`, which bind what is
loaded from other modules, then `tests`, which declare the slot test, then the items of the program
it comes from. -/
structure Resolved (options : Options) (annotate : Bool) (program : Program)
    (loads tests items : List Node) : Prop where
  body : (program.compile options annotate).program.body = loads ++ tests ++ items
  length : items.length = program.body.length
  markupFree : ∀ item ∈ items, item.MarkupFree
  /-- Every reference occurs in the program as it was, or is the factory that the options name, or
  is the value that a generated handler is called with, or is bound exactly once. -/
  resolved : ∀ reference ∈ Node.referencesAll false items,
    program.Mentions reference.id ∨
    (∃ name, options.pragma = some name ∧ reference.id = ⟨name, 0⟩) ∨
    (reference.id = .event ∧ reference.inHandler = true) ∨
    ((loads ++ tests).flatMap Node.boundIds).count reference.id = 1
  /-- Each of the first declarations loads something. -/
  loading : ∀ load ∈ loads, load.loadedImports ≠ []
  /-- The slot test calls a function that is loaded before it, under a name that is bound once. -/
  testing : tests = [] ∨ ∃ isVNode, tests = [slotTestDeclaration program.slotTestName isVNode] ∧
    ⟨options.runtimeModule, .named Export.isVNode.name, isVNode⟩ ∈
      loads.flatMap Node.loadedImports ∧
    (loads.flatMap Node.boundIds).count ⟨isVNode, 0⟩ = 1
  /-- The slot test is declared if a reference to it was generated. -/
  slotTest : ∀ reference ∈ Node.referencesAll false items,
    reference.id = ⟨program.slotTestName, 0⟩ → program.Mentions reference.id ∨
      options.pragma = some program.slotTestName ∨ tests ≠ []
  /-- The factory of the runtime is not loaded if the options name one. -/
  factory : options.pragma.isSome = true → ∀ entry ∈ loads.flatMap Node.loadedImports,
    entry.imported ≠ .named Export.createVNode.name

section

variable {options : Options} {annotate : Bool} {program : Program}

/-- The requests of a compilation serve its imports. -/
theorem exists_servedBy_requestedImports (options : Options) (annotate : Bool)
    (program : Program) :
    ∃ requests, Imports.ServedBy options (Bindings.ofProgram program).names requests
        (program.requestedImports options annotate) ∧
      (program.requestedImports options annotate).WellFormed := by
  obtain ⟨requests, hr⟩ := Node.kept_visitAll
    (Pass.kept_importsRequested (program.context options annotate)) program.body
    ⟨.new (program.context options annotate), 0, none⟩
  refine ⟨requests, ?_⟩
  rw [requestedImports, visited, hr]
  exact ⟨Imports.servedBy_serveAll options (.ofProgram program) requests,
    (Imports.wellFormed_new options (.ofProgram program)).serveAll requests⟩

/-- No reference dangles after a pass without a fault. -/
theorem known_of_mem_references (h : (program.visited options annotate).2.fault = none) :
    ∀ reference ∈ Node.referencesAll false (program.visited options annotate).1,
      reference.Known program.Mentions (program.requestedImports options annotate) :=
  Node.refersOnly_all_iff.mpr (Node.visitAll_satisfies (Node.closed_refersOnly _ _) _ program.body h
    (.refl _) (program.identsSatisfy_mentions _)) false

/-- The factory of the runtime is not imported if the options name one. -/
theorem createVNode_not_mem_entries (hp : options.pragma.isSome = true) :
    ∀ entry ∈ (program.requestedImports options annotate).entries,
      entry.imported ≠ .named Export.createVNode.name := by
  obtain ⟨requests, hr, hspared⟩ := Node.kept_visitAll
    (Pass.kept_makesRequests (program.context options annotate)) program.body
    ⟨.new (program.context options annotate), 0, none⟩
  rw [requestedImports, visited, hr]
  exact (Imports.servedBy_serveAll options (.ofProgram program) requests).imported_ne nofun
    fun hm => hspared _ hm hp rfl

/-- The name of the slot test is not that of the value that a handler is called with. -/
theorem event_ne_slotTest (program : Program) : Id.event ≠ ⟨program.slotTestName, 0⟩ :=
  event_ne_localName _ _

end

/-- The declarations and the items of a program that compiles leave no reference dangling. -/
theorem compile_leaves_no_dangling_reference (options : Options) (annotate : Bool)
    (program : Program) (count : Nat)
    (h : (program.compile options annotate).result = .ok count) :
    ∃ loads tests items, program.Resolved options annotate loads tests items := by
  have hf := fault_eq_none_of_result h
  have hknown := known_of_mem_references hf
  obtain ⟨requests, hserved, hwell⟩ := exists_servedBy_requestedImports options annotate program
  have hloaded := (program.requestedImports options annotate).loadedImports_loads program.kind
  refine ⟨(program.requestedImports options annotate).loads program.kind,
    (program.requestedImports options annotate).slotTestDeclarations,
    (program.visited options annotate).1,
    { body := ?_
      length := Node.length_visitAll _ program.body _
      markupFree := Node.markupFree_visitAll _ program.body hf
      resolved := ?_
      loading := fun load hm => Imports.loadedImports_ne_nil_of_mem_loads hm
      testing := ?_
      slotTest := ?_
      factory := fun hp entry hm => createVNode_not_mem_entries hp entry (hloaded.mem_iff.mp hm) }⟩
  · rw [compile_of_fault_eq_none hf, ← Imports.declarations_eq]
    rfl
  · intro reference hm
    rcases hknown reference hm with hmention | ⟨name, hn, he⟩ | hevent
    · exact Or.inl hmention
    · rcases hserved.count_boundIds hwell program.kind hn with hpragma | hcount
      · exact Or.inr (Or.inl ⟨name, hpragma, he⟩)
      · exact Or.inr (Or.inr (Or.inr (he ▸ hcount)))
    · exact Or.inr (Or.inr (Or.inl hevent))
  · rw [hserved.slotTestDeclarations_eq]
    split
    · rename_i hr
      have hentry := (hserved.entries _).mpr ⟨.slotTest, hr, rfl⟩
      have hnodup := hserved.nodup_boundIds hwell program.kind
      rw [List.flatMap_append] at hnodup
      exact Or.inr ⟨_, rfl, hloaded.mem_iff.mpr hentry, List.count_eq_one_of_mem
        (List.nodup_append.mp hnodup).1 (Imports.ServedBy.localId_mem_loads hentry program.kind)⟩
    · exact Or.inl rfl
  · intro reference hm hslot
    rcases hknown reference hm with hmention | ⟨name, hn, he⟩ | hevent
    · exact Or.inl hmention
    · have hname : name = program.slotTestName := congrArg Id.name (he.symm.trans hslot)
      rcases hn with ⟨entry, hentry, hlocal⟩ | hs | hp
      · exact absurd (hlocal.trans hname) (hserved.localName_ne_slotTest hentry)
      · obtain ⟨hr, _⟩ := hserved.slotTest_eq_some_iff.mp hs
        rw [hserved.slotTestDeclarations_eq, if_pos hr]
        exact Or.inr (Or.inr (List.cons_ne_nil _ _))
      · rw [hserved.pragma, hname] at hp
        exact Or.inr (Or.inl hp)
    · exact absurd (hevent.1.symm.trans hslot) program.event_ne_slotTest

/-- The module `<A v-model={m}>{c}</A>`: a component that is looked up, a generated handler, and a
child that may be a slots object. -/
def modelOnComponent : Program where
  kind := .module
  span := .dummy
  interpreter := none
  body := [.plain .expressionStatement [.jsx (.element .dummy
    ⟨.dummy, false, .path (.ident (.generated "A"))⟩
    [.named .dummy (.plain (.generated "v-model")) (.container .dummy (.ref "m"))]
    [.container .dummy (.ref "c")] none)]]

/-- Its compilation refers to the slot test and to the value a handler is called with. -/
theorem modelOnComponent_leaves_no_dangling_reference :
    (modelOnComponent.compile .default false).result = .ok 1 ∧
      [⟨⟨modelOnComponent.slotTestName, 0⟩, false⟩, ⟨.event, true⟩] ⊆
        Node.referencesAll false (modelOnComponent.visited .default false).1 ∧
      ∃ loads tests items, modelOnComponent.Resolved .default false loads tests items :=
  ⟨rfl, by decide +kernel,
    compile_leaves_no_dangling_reference .default false modelOnComponent 1 rfl⟩

end Program

end JsxVNode
