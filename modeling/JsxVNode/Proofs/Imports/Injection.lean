import JsxVNode.Proofs.FirstOccurrences
import JsxVNode.Proofs.Imports.Declarations
import Mathlib.Data.List.Forall2

/-!
# What an injection binds

Whatever is asked of the imports of a file, and in whatever order, the declarations
injected into a module and those injected into a script bind the same: every symbol
that was asked for, once, under the name that was handed out for it. There is one
declaration for each module that symbols come from, in the order in which the modules
were first asked for something, and the slot test follows if it was asked for.
-/

namespace JsxVNode

/-- What an import imports, apart from the name it gives to it: the module and the export. -/
def Import.symbol (entry : Import) : String × Imported := (entry.source, entry.imported)

namespace Imports

/-- What can be asked of the imports of a file: an export of the runtime of any name, the node
factory, the function that expands a map of handlers, and the slot test. -/
inductive Demand where
  | named (name : String)
  | factory
  | transformOn
  | slotTest
  deriving DecidableEq, Repr

namespace Demand

/-- The answer to a demand, and the imports after it. -/
def run : Demand → Imports → String × Imports
  | .named name, imports => imports.getNamed name
  | .factory, imports => imports.factory
  | .transformOn, imports => imports.transformOn
  | .slotTest, imports => imports.isSlot

/-- The symbol that has to be imported for a demand; there is none if the options name the
factory. -/
def symbol? (options : Options) : Demand → Option (String × Imported)
  | .named name => some (options.runtimeModule, .named name)
  | .factory =>
    if options.pragma.isSome then none
    else some (options.runtimeModule, .named Export.createVNode.name)
  | .transformOn => some (options.transformOnModule, .default)
  | .slotTest => some (options.runtimeModule, .named Export.isVNode.name)

/-- The symbols that have to be imported for some demands, in the order of the demands. -/
def symbols (options : Options) (demands : List Demand) : List (String × Imported) :=
  demands.filterMap (symbol? options)

/-- The symbol of one more demand comes last. -/
theorem symbols_concat (options : Options) (demands : List Demand) (demand : Demand) :
    symbols options (demands ++ [demand]) =
      symbols options demands ++ (demand.symbol? options).toList := by
  rw [symbols, symbols, List.filterMap_append, List.filterMap_cons]
  cases demand.symbol? options <;> rfl

end Demand

/-- The imports of a file after some demands: they import the symbols that have to be imported, in
the order of the first demand for each, and the slot test has a name of its own if there is a
demand for it. -/
structure Meets (options : Options) (demands : List Demand) (imports : Imports) : Prop where
  runtimeModule : imports.runtimeModule = options.runtimeModule
  transformOnModule : imports.transformOnModule = options.transformOnModule
  pragma : imports.pragma = options.pragma
  symbols : imports.entries.map Import.symbol = (Demand.symbols options demands).eraseDups
  slotTest : imports.slotTest.isSome = true ↔ .slotTest ∈ demands
  slotTest_taken : ∀ name ∈ imports.slotTest, name ∈ imports.taken
  localName_ne : ∀ name ∈ imports.slotTest, ∀ entry ∈ imports.entries, entry.localName ≠ name
  wellFormed : imports.WellFormed

/-- An export has been imported if and only if its symbol is among those of the entries. -/
theorem find?_isSome_iff (imports : Imports) (source : String) (imported : Imported) :
    (imports.find? source imported).isSome = true ↔
      (source, imported) ∈ imports.entries.map Import.symbol := by
  simp [find?, Import.symbol]

namespace Meets

variable {options : Options} {demands : List Demand} {imports : Imports}

/-- A new file imports nothing, and no demand has been made. -/
theorem new (options : Options) (bindings : Bindings) :
    Meets options [] (Imports.new options bindings) := by
  refine ⟨rfl, rfl, rfl, rfl, ?_, nofun, nofun, wellFormed_new options bindings⟩
  simp [Imports.new]

/-- A demand that needs nothing more changes nothing. -/
theorem again (h : Meets options demands imports) {demand : Demand}
    (hslot : demand = .slotTest → .slotTest ∈ demands)
    (hsymbol : ∀ symbol ∈ demand.symbol? options, symbol ∈ Demand.symbols options demands) :
    Meets options (demands ++ [demand]) imports := by
  refine ⟨h.runtimeModule, h.transformOnModule, h.pragma, ?_, ?_, h.slotTest_taken,
    h.localName_ne, h.wellFormed⟩
  · rw [h.symbols, Demand.symbols_concat]
    cases hs : demand.symbol? options with
    | none => rw [Option.toList_none, List.append_nil]
    | some symbol => rw [Option.toList_some, eraseDups_concat, if_pos (hsymbol symbol hs)]
  · rw [h.slotTest, List.mem_append, List.mem_singleton]
    exact (or_iff_left_of_imp fun heq => hslot heq.symm).symm

/-- A demand for a symbol imports it after all others, unless it is imported. -/
theorem request (h : Meets options demands imports) {demand : Demand} {source name : String}
    {imported : Imported} (hslot : demand ≠ .slotTest)
    (hsymbol : demand.symbol? options = some (source, imported)) :
    Meets options (demands ++ [demand]) (imports.request source imported name).2 := by
  have hwell := h.wellFormed.request source imported name
  obtain ⟨found, hf, he⟩ | ⟨chosen, hf, hfree, he⟩ := request_cases imports source imported name
  · rw [he]
    refine h.again (fun heq => absurd heq hslot) fun symbol hm => ?_
    rw [hsymbol, Option.mem_some_iff] at hm
    rw [← hm, ← List.mem_eraseDups, ← h.symbols, ← find?_isSome_iff, hf]
    rfl
  · have hnew : (source, imported) ∉ Demand.symbols options demands := by
      rw [← List.mem_eraseDups, ← h.symbols, ← find?_isSome_iff, hf]
      decide
    rw [he] at hwell ⊢
    refine ⟨h.runtimeModule, h.transformOnModule, h.pragma, ?_, ?_, ?_, ?_, hwell⟩
    · rw [List.map_append, h.symbols, Demand.symbols_concat, hsymbol, Option.toList_some,
        eraseDups_concat, if_neg hnew]
      rfl
    · rw [h.slotTest, List.mem_append, List.mem_singleton]
      exact (or_iff_left_of_imp fun heq => absurd heq.symm hslot).symm
    · exact fun name hm => List.mem_append_left _ (h.slotTest_taken name hm)
    · intro name hm entry hentry
      rcases List.mem_append.mp hentry with hentry | hentry
      · exact h.localName_ne name hm entry hentry
      · rw [List.mem_singleton.mp hentry]
        rintro rfl
        exact hfree (h.slotTest_taken _ hm)

/-- The first demand for the slot test imports what it calls and gives it a name. -/
theorem slotTest_run (h : Meets options demands imports) :
    Meets options (demands ++ [.slotTest]) imports.isSlot.2 := by
  rw [Imports.isSlot]
  split
  · rename_i name hs
    have hasked : .slotTest ∈ demands := h.slotTest.mp (by rw [hs, Option.isSome_some])
    refine h.again (fun _ => hasked) fun symbol hm => ?_
    exact List.mem_filterMap.mpr ⟨.slotTest, hasked, hm⟩
  · -- What the slot test calls is imported as if it had been asked for by its name.
    have hmet : Meets options (demands ++ [.named Export.isVNode.name])
        (imports.get .isVNode).2 := by
      refine h.request (by simp) ?_
      rw [h.runtimeModule]
      rfl
    have hne : (imports.get .isVNode).2.entries ≠ [] := entries_request_ne_nil _ _ _ _
    have hwell := hmet.wellFormed
    refine ⟨hmet.runtimeModule, hmet.transformOnModule, hmet.pragma, ?_, ?_, ?_, ?_, ?_⟩
    · rw [hmet.symbols, Demand.symbols_concat, Demand.symbols_concat]
      rfl
    · simp
    · intro name hm
      rw [Option.mem_some_iff] at hm
      rw [← hm]
      exact List.mem_append_right _ (List.mem_singleton_self _)
    · intro name hm entry hentry
      rw [Option.mem_some_iff] at hm
      rw [← hm]
      intro heq
      exact fresh_not_mem (imports.get .isVNode).2.taken "_isSlot"
        (heq ▸ hwell.taken entry hentry)
    · exact ⟨fun entry hm => List.mem_append_left _ (hwell.taken entry hm), hwell.nodup,
        fun _ => hne⟩

/-- What a demand does: it is one for the slot test, the options answer it, or it requests the
symbol that has to be imported. -/
theorem run_cases (h : Meets options demands imports) (demand : Demand) :
    demand = .slotTest ∨
    (demand ≠ .slotTest ∧ demand.symbol? options = none ∧
      ∃ pragma, options.pragma = some pragma ∧ demand.run imports = (pragma, imports)) ∨
    (demand ≠ .slotTest ∧ ∃ source imported name,
      demand.symbol? options = some (source, imported) ∧
        demand.run imports = imports.request source imported name) := by
  cases demand with
  | named name =>
    refine Or.inr (Or.inr ⟨by simp, options.runtimeModule, .named name, name, rfl, ?_⟩)
    rw [← h.runtimeModule]
    rfl
  | factory =>
    cases hp : options.pragma with
    | some pragma =>
      have hrun : Demand.factory.run imports = (pragma, imports) := by
        rw [Demand.run, factory, h.pragma, hp]
      exact Or.inr (Or.inl ⟨by simp, by simp [Demand.symbol?, hp], pragma, rfl, hrun⟩)
    | none =>
      refine Or.inr (Or.inr ⟨by simp, options.runtimeModule, .named Export.createVNode.name,
        Export.createVNode.name, by simp [Demand.symbol?, hp], ?_⟩)
      rw [Demand.run, factory, h.pragma, hp, ← h.runtimeModule]
      rfl
  | transformOn =>
    refine Or.inr (Or.inr ⟨by simp, options.transformOnModule, .default, "transformOn", rfl, ?_⟩)
    rw [← h.transformOnModule]
    rfl
  | slotTest => exact Or.inl rfl

/-- One demand. -/
theorem run (h : Meets options demands imports) (demand : Demand) :
    Meets options (demands ++ [demand]) (demand.run imports).2 := by
  rcases h.run_cases demand with rfl | ⟨hslot, hsymbol, pragma, _, hrun⟩ |
    ⟨hslot, source, imported, name, hsymbol, hrun⟩
  · exact h.slotTest_run
  · rw [hrun]
    refine h.again (fun heq => absurd heq hslot) fun symbol hm => ?_
    rw [hsymbol] at hm
    cases hm
  · rw [hrun]
    exact h.request hslot hsymbol

end Meets

end Imports

/-!
# Declarations that load a module

What has been asked for is declared in one form in a module and in another in a script.
Both bind the same, read off the text of the declarations alone.
-/

namespace Imports

/-- The declaration that loads a module in a program of some kind. -/
def load (imports : Imports) (kind : ProgramKind) (source : String) : Node :=
  match kind with
  | .module => importDeclaration source (imports.fromSource source)
  | .script => requireDeclaration source (imports.fromSource source)

namespace Meets

variable {options : Options} {demands : List Demand} {imports : Imports}

/-- The name that the slot test is declared under is the one that was handed out. -/
theorem slotTestDeclarations_cases (h : Meets options demands imports) :
    .slotTest ∉ demands ∧ imports.slotTest = none ∧ imports.slotTestDeclarations = [] ∨
    .slotTest ∈ demands ∧ ∃ name isVNode, imports.slotTest = some name ∧
      imports.slotTestDeclarations = [slotTestDeclaration name isVNode] ∧
      ⟨options.runtimeModule, .named Export.isVNode.name, isVNode⟩ ∈ imports.entries := by
  cases hs : imports.slotTest with
  | none =>
    refine Or.inl ⟨fun hm => ?_, rfl, ?_⟩
    · rw [← h.slotTest, hs] at hm
      cases hm
    · rw [slotTestDeclarations, hs]
  | some name =>
    have hm : .slotTest ∈ demands := h.slotTest.mp (by rw [hs, Option.isSome_some])
    have hfound : (imports.find? options.runtimeModule
        (.named Export.isVNode.name)).isSome = true := by
      rw [find?_isSome_iff, h.symbols, List.mem_eraseDups]
      exact List.mem_filterMap.mpr ⟨.slotTest, hm, rfl⟩
    obtain ⟨isVNode, hf⟩ := Option.isSome_iff_exists.mp hfound
    refine Or.inr ⟨hm, name, isVNode, rfl, ?_, mem_entries_of_find? hf⟩
    rw [slotTestDeclarations, hs, h.runtimeModule, hf]

/-- No name is bound twice by the injected declarations. -/
theorem nodup_boundIds (h : Meets options demands imports) (kind : ProgramKind) :
    ((imports.loads kind ++ imports.slotTestDeclarations).flatMap Node.boundIds).Nodup := by
  have hentries := h.wellFormed.nodup_localIds
  rw [List.flatMap_append]
  refine ((imports.boundIds_loads kind).append_right _).nodup_iff.mpr ?_
  rcases h.slotTestDeclarations_cases with ⟨_, _, htests⟩ | ⟨_, name, isVNode, hs, htests, _⟩
  · rw [htests, List.flatMap_nil, List.append_nil]
    exact hentries
  · rw [htests]
    refine hentries.append (List.nodup_singleton _) ?_
    intro id hid hid'
    obtain ⟨entry, hm, rfl⟩ := List.mem_map.mp hid
    exact h.localName_ne name hs entry hm (congrArg Id.name (List.mem_singleton.mp hid'))

end Meets

end Imports

end JsxVNode
