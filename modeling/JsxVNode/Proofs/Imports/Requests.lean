import JsxVNode.Imports.Injection
import Mathlib.Data.List.Nodup

/-!
# Requests for imports

The imports of a file change by requests alone. A request either finds what it asks
for or adds an entry under a name that nothing has taken, so that the local names of
all entries are distinct, an entry that is there stays there, and nothing is declared
at the head of a file exactly if nothing was requested.
-/

namespace JsxVNode

namespace Imports

/-- No two candidates for a base name are the same. -/
theorem candidate_injective (base : String) : Function.Injective (candidate base) := by
  have hne (n : Nat) : base ≠ base ++ toString (n + 2) := by
    intro h
    have hlist := congrArg String.toList h
    rw [String.toList_append, List.self_eq_append_right] at hlist
    exact Nat.toDigits_ne_nil (Nat.toList_repr.symm.trans hlist)
  intro m n h
  cases m with
  | zero =>
    cases n with
    | zero => rfl
    | succ n => exact absurd h (hne n)
  | succ m =>
    cases n with
    | zero => exact absurd h.symm (hne m)
    | succ n =>
      have hrepr : (m + 2).repr = (n + 2).repr := (String.append_right_inj base).mp h
      have hdigits := congrArg String.toList hrepr
      rw [Nat.toList_repr, Nat.toList_repr] at hdigits
      have hvalue := congrArg (Nat.ofDigitChars 10 · 0) hdigits
      simp only [Nat.ofDigitChars_ten_toDigits] at hvalue
      omega

/-- The chosen name is not taken: there is one candidate more than there are taken names. -/
theorem fresh_not_mem (taken : List String) (base : String) : fresh taken base ∉ taken := by
  unfold fresh
  cases hf : ((List.range (taken.length + 1)).map (candidate base)).find?
      (!taken.contains ·) with
  | some name => simpa using List.find?_some hf
  | none =>
    rw [List.find?_eq_none] at hf
    have hsub : (List.range (taken.length + 1)).map (candidate base) ⊆ taken := by
      intro name hn
      simpa using hf name hn
    have hnodup : ((List.range (taken.length + 1)).map (candidate base)).Nodup :=
      List.nodup_range.map (candidate_injective base)
    have hle := hnodup.length_le_of_subset hsub
    rw [List.length_map, List.length_range] at hle
    omega

/-- What can be requested: an export of the runtime, the function that expands a map of handlers,
and the function that tells slots from nodes. -/
inductive Request where
  | runtime (symbol : Export)
  | transformOn
  | slotTest
  deriving DecidableEq, Repr

/-- The imports after a request. -/
def serve (imports : Imports) : Request → Imports
  | .runtime symbol => (imports.get symbol).2
  | .transformOn => imports.transformOn.2
  | .slotTest => imports.isSlot.2

/-- The imports after several requests, from first to last. -/
def serveAll (imports : Imports) (requests : List Request) : Imports :=
  requests.foldl serve imports

theorem serveAll_cons (imports : Imports) (request : Request) (requests : List Request) :
    imports.serveAll (request :: requests) = (imports.serve request).serveAll requests := rfl

/-- Requests that come one after the other are served as one list. -/
theorem serveAll_append (imports : Imports) (first second : List Request) :
    imports.serveAll (first ++ second) = (imports.serveAll first).serveAll second :=
  List.foldl_append

/-- What a request for an import does: it finds the import, or it adds it under a name that was
not taken. -/
theorem request_cases (imports : Imports) (source : String) (imported : Imported) (name : String) :
    (∃ found, imports.find? source imported = some found ∧
      imports.request source imported name = (found, imports)) ∨
    ∃ chosen, imports.find? source imported = none ∧ chosen ∉ imports.taken ∧
      imports.request source imported name = (chosen, { imports with
        entries := imports.entries ++ [⟨source, imported, chosen⟩]
        taken := imports.taken ++ [chosen] }) := by
  unfold request
  cases hf : imports.find? source imported with
  | some found => exact Or.inl ⟨found, rfl, rfl⟩
  | none => exact Or.inr ⟨_, rfl, fresh_not_mem imports.taken ("_" ++ name), rfl⟩

/-- The imports that requests can lead to. -/
structure WellFormed (imports : Imports) : Prop where
  /-- The local names are taken. -/
  taken : ∀ entry ∈ imports.entries, entry.localName ∈ imports.taken
  /-- The local names are distinct. -/
  nodup : (imports.entries.map (·.localName)).Nodup
  /-- The function that tells slots from nodes calls an imported one. -/
  slotTest : imports.slotTest.isSome = true → imports.entries ≠ []

/-- A new file has no entries that could clash. -/
theorem wellFormed_new (options : Options) (bindings : Bindings) :
    (new options bindings).WellFormed :=
  ⟨by simp [new], by simp [new], by simp [new]⟩

/-- After a request for an import there is an entry. -/
theorem entries_request_ne_nil (imports : Imports) (source : String) (imported : Imported)
    (name : String) : (imports.request source imported name).2.entries ≠ [] := by
  obtain ⟨found, hf, he⟩ | ⟨chosen, _, _, he⟩ := request_cases imports source imported name
  · rw [he]
    intro hn
    rw [find?, hn] at hf
    cases hf
  · rw [he]
    exact List.append_ne_nil_of_right_ne_nil _ (List.cons_ne_nil _ _)

/-- A request for a symbol adds an entry with a fresh name at most, so the names stay distinct. -/
theorem WellFormed.request {imports : Imports} (h : imports.WellFormed) (source : String)
    (imported : Imported) (name : String) :
    (imports.request source imported name).2.WellFormed := by
  obtain ⟨found, _, he⟩ | ⟨chosen, _, hn, he⟩ := request_cases imports source imported name
  · rw [he]
    exact h
  · rw [he]
    refine ⟨?_, ?_, by simp⟩
    · intro entry hm
      rcases List.mem_append.mp hm with hm | hm
      · exact List.mem_append_left _ (h.taken entry hm)
      · rw [List.mem_singleton.mp hm]
        exact List.mem_append_right _ (List.mem_singleton_self chosen)
    · rw [List.map_append, List.map_singleton]
      refine h.nodup.append (List.nodup_singleton chosen) ?_
      rw [List.disjoint_singleton]
      intro hm
      obtain ⟨entry, hentry, rfl⟩ := List.mem_map.mp hm
      exact hn (h.taken entry hentry)

/-- Serving a request keeps the names distinct. -/
theorem WellFormed.serve {imports : Imports} (h : imports.WellFormed) (request : Request) :
    (imports.serve request).WellFormed := by
  cases request with
  | runtime symbol => exact h.request _ _ _
  | transformOn => exact h.request _ _ _
  | slotTest =>
    rw [Imports.serve, Imports.isSlot]
    split
    · exact h
    · have hw : (imports.get .isVNode).2.WellFormed := h.request _ _ _
      have hne := entries_request_ne_nil imports imports.runtimeModule
        (.named Export.isVNode.name) Export.isVNode.name
      exact ⟨fun entry hm => List.mem_append_left _ (hw.taken entry hm), hw.nodup, fun _ => hne⟩

theorem WellFormed.serveAll {imports : Imports} (h : imports.WellFormed)
    (requests : List Request) : (imports.serveAll requests).WellFormed := by
  induction requests generalizing imports with
  | nil => exact h
  | cons request requests ih => exact ih (h.serve request)

/-- Two entries of well-formed imports with the same local name import the same. -/
theorem WellFormed.find?_injective {imports : Imports} (h : imports.WellFormed)
    {source source' : String} {imported imported' : Imported} {name : String}
    (hf : imports.find? source imported = some name)
    (hf' : imports.find? source' imported' = some name) :
    source = source' ∧ imported = imported' := by
  obtain ⟨entry, he, rfl⟩ := Option.map_eq_some_iff.mp hf
  obtain ⟨entry', he', hn⟩ := Option.map_eq_some_iff.mp hf'
  have hsame : entry' = entry := List.inj_on_of_nodup_map h.nodup
    (List.mem_of_find?_eq_some he') (List.mem_of_find?_eq_some he) hn
  have hs := List.find?_some he
  have hs' := List.find?_some he'
  rw [hsame] at hs'
  simp only [Bool.and_eq_true, beq_iff_eq] at hs hs'
  exact ⟨hs.1.symm.trans hs'.1, hs.2.symm.trans hs'.2⟩

/-- Imports after some requests: the modules are the same, and so are the entries so far. -/
structure Extends (imports imports' : Imports) : Prop where
  runtimeModule : imports'.runtimeModule = imports.runtimeModule
  transformOnModule : imports'.transformOnModule = imports.transformOnModule
  entries : imports.entries <+: imports'.entries

theorem Extends.refl (imports : Imports) : imports.Extends imports :=
  ⟨rfl, rfl, List.prefix_rfl⟩

theorem Extends.trans {a b c : Imports} (h : a.Extends b) (h' : b.Extends c) : a.Extends c :=
  ⟨h'.runtimeModule.trans h.runtimeModule, h'.transformOnModule.trans h.transformOnModule,
    h.entries.trans h'.entries⟩

/-- A request for a symbol adds its entry after those so far. -/
theorem extends_request (imports : Imports) (source : String) (imported : Imported)
    (name : String) : imports.Extends (imports.request source imported name).2 := by
  obtain ⟨found, _, he⟩ | ⟨chosen, _, _, he⟩ := request_cases imports source imported name
  · rw [he]
    exact .refl imports
  · rw [he]
    exact ⟨rfl, rfl, List.prefix_append _ _⟩

/-- Serving a request adds entries after those so far. -/
theorem extends_serve (imports : Imports) (request : Request) :
    imports.Extends (imports.serve request) := by
  cases request with
  | runtime symbol => exact extends_request _ _ _ _
  | transformOn => exact extends_request _ _ _ _
  | slotTest =>
    rw [serve, isSlot]
    split
    · exact .refl imports
    · have hx : imports.Extends (imports.get .isVNode).2 := extends_request _ _ _ _
      exact ⟨hx.runtimeModule, hx.transformOnModule, hx.entries⟩

theorem extends_serveAll (imports : Imports) (requests : List Request) :
    imports.Extends (imports.serveAll requests) := by
  induction requests generalizing imports with
  | nil => exact .refl imports
  | cons request requests ih => exact (extends_serve imports request).trans (ih _)

/-- What was found once is found under the same name from then on. -/
theorem Extends.find? {imports imports' : Imports} (h : imports.Extends imports')
    {source : String} {imported : Imported} {name : String}
    (hf : imports.find? source imported = some name) :
    imports'.find? source imported = some name := by
  obtain ⟨more, hm⟩ := h.entries
  obtain ⟨entry, he, rfl⟩ := Option.map_eq_some_iff.mp hf
  rw [Imports.find?, ← hm, List.find?_append, he]
  rfl

/-- An import that is found is an entry. -/
theorem mem_entries_of_find? {imports : Imports} {source name : String} {imported : Imported}
    (h : imports.find? source imported = some name) :
    ⟨source, imported, name⟩ ∈ imports.entries := by
  obtain ⟨entry, he, rfl⟩ := Option.map_eq_some_iff.mp h
  have hkey := List.find?_some he
  simp only [Bool.and_eq_true, beq_iff_eq] at hkey
  obtain ⟨rfl, rfl⟩ := hkey
  exact List.mem_of_find?_eq_some he

/-- A request returns the name under which the import is found from then on. -/
theorem find?_request (imports : Imports) (source : String) (imported : Imported)
    (name : String) :
    (imports.request source imported name).2.find? source imported =
      some (imports.request source imported name).1 := by
  obtain ⟨found, hf, he⟩ | ⟨chosen, hf, _, he⟩ := request_cases imports source imported name
  · rw [he]
    exact hf
  · rw [he, find?, List.find?_append, Option.map_eq_none_iff.mp hf]
    simp

/-- Once it has been requested, the function that expands maps of handlers is imported. -/
theorem find?_transformOn (imports : Imports) :
    imports.transformOn.2.find? imports.transformOn.2.transformOnModule .default =
      some imports.transformOn.1 := by
  have hx : imports.Extends imports.transformOn.2 := extends_request _ _ _ _
  rw [hx.transformOnModule]
  exact find?_request _ _ _ _

/-- A request for a symbol does not change the pragma. -/
theorem pragma_request (imports : Imports) (source : String) (imported : Imported)
    (name : String) : (imports.request source imported name).2.pragma = imports.pragma := by
  obtain ⟨found, _, he⟩ | ⟨chosen, _, _, he⟩ := request_cases imports source imported name
  · rw [he]
  · rw [he]

theorem slotTest_request (imports : Imports) (source : String) (imported : Imported)
    (name : String) : (imports.request source imported name).2.slotTest = imports.slotTest := by
  obtain ⟨found, _, he⟩ | ⟨chosen, _, _, he⟩ := request_cases imports source imported name
  · rw [he]
  · rw [he]

theorem pragma_serve (imports : Imports) (request : Request) :
    (imports.serve request).pragma = imports.pragma := by
  cases request with
  | runtime symbol => exact pragma_request _ _ _ _
  | transformOn => exact pragma_request _ _ _ _
  | slotTest =>
    rw [serve, isSlot]
    split
    · rfl
    · exact pragma_request _ _ _ _

/-- No request changes the name that the options give to the factory. -/
theorem pragma_serveAll (imports : Imports) (requests : List Request) :
    (imports.serveAll requests).pragma = imports.pragma := by
  induction requests generalizing imports with
  | nil => rfl
  | cons request requests ih => rw [serveAll_cons, ih, pragma_serve]

/-- The slot test keeps the name it has. -/
theorem slotTest_serve {imports : Imports} {name : String} (h : imports.slotTest = some name)
    (request : Request) : (imports.serve request).slotTest = some name := by
  cases request with
  | runtime symbol => exact (slotTest_request _ _ _ _).trans h
  | transformOn => exact (slotTest_request _ _ _ _).trans h
  | slotTest =>
    rw [serve, isSlot, h]
    exact h

/-- A name stands for something of the runtime: it is the local name of an import or of the slot
test, or the name that the options give to the factory. -/
def HandsOut (imports : Imports) (name : String) : Prop :=
  (∃ entry ∈ imports.entries, entry.localName = name) ∨ imports.slotTest = some name ∨
    imports.pragma = some name

/-- A name that was handed out stays so after more requests. -/
theorem HandsOut.serveAll {imports : Imports} {name : String} (h : imports.HandsOut name)
    (requests : List Request) : (imports.serveAll requests).HandsOut name := by
  induction requests generalizing imports with
  | nil => exact h
  | cons request requests ih =>
    apply ih
    rcases h with ⟨entry, hm, he⟩ | hs | hp
    · exact Or.inl ⟨entry, (extends_serve imports request).entries.subset hm, he⟩
    · exact Or.inr (Or.inl (slotTest_serve hs request))
    · exact Or.inr (Or.inr ((pragma_serve imports request).trans hp))

/-- Requests lead from some imports to others. -/
def LeadsTo (imports imports' : Imports) : Prop :=
  ∃ requests, imports' = imports.serveAll requests

theorem LeadsTo.refl (imports : Imports) : imports.LeadsTo imports := ⟨[], rfl⟩

theorem LeadsTo.trans {imports imports' imports'' : Imports} (h : imports.LeadsTo imports')
    (h' : imports'.LeadsTo imports'') : imports.LeadsTo imports'' := by
  obtain ⟨first, rfl⟩ := h
  obtain ⟨second, rfl⟩ := h'
  exact ⟨first ++ second, (serveAll_append _ _ _).symm⟩

/-- Further requests leave the slot test its name. -/
theorem LeadsTo.slotTest {imports imports' : Imports} (h : imports.LeadsTo imports') {name : String}
    (hs : imports.slotTest = some name) : imports'.slotTest = some name := by
  obtain ⟨requests, rfl⟩ := h
  induction requests generalizing imports with
  | nil => exact hs
  | cons request requests ih => exact ih (slotTest_serve hs request)

/-- Imports that others lead to extend them. -/
theorem LeadsTo.extends {imports imports' : Imports} (h : imports.LeadsTo imports') :
    imports.Extends imports' := by
  obtain ⟨requests, rfl⟩ := h
  exact extends_serveAll imports requests

theorem LeadsTo.pragma {imports imports' : Imports} (h : imports.LeadsTo imports') :
    imports'.pragma = imports.pragma := by
  obtain ⟨requests, rfl⟩ := h
  exact pragma_serveAll imports requests

/-- A request leads from the imports before it to those after it. -/
theorem leadsTo_get (imports : Imports) (symbol : Export) :
    imports.LeadsTo (imports.get symbol).2 := ⟨[.runtime symbol], rfl⟩

theorem leadsTo_factory (imports : Imports) : imports.LeadsTo imports.factory.2 := by
  unfold factory
  split
  · exact .refl imports
  · exact leadsTo_get imports .createVNode

/-- The local name of an export of the runtime, if it was requested. -/
def exportName? (imports : Imports) (symbol : Export) : Option String :=
  imports.find? imports.runtimeModule (.named symbol.name)

/-- The local name of an export stays its name as the imports grow. -/
theorem Extends.exportName? {imports imports' : Imports} (h : imports.Extends imports')
    {symbol : Export} {name : String} (hname : imports.exportName? symbol = some name) :
    imports'.exportName? symbol = some name := by
  rw [Imports.exportName?, h.runtimeModule]
  exact h.find? hname

/-- A name that is requested for an export is known by it from then on. -/
theorem exportName?_get (imports : Imports) (symbol : Export) :
    (imports.get symbol).2.exportName? symbol = some (imports.get symbol).1 := by
  rw [exportName?, (leadsTo_get imports symbol).extends.runtimeModule]
  exact find?_request _ _ _ _

/-- The name of the function that constructs nodes: the one that the options name, or else that of
the runtime's export. -/
def factoryName? (imports : Imports) : Option String :=
  imports.pragma <|> imports.exportName? .createVNode

/-- The factory is known by the name that was handed out for it. -/
theorem factoryName?_factory (imports : Imports) :
    imports.factory.2.factoryName? = some imports.factory.1 := by
  rw [factoryName?, (leadsTo_factory imports).pragma]
  unfold factory
  cases imports.pragma with
  | some pragma => rfl
  | none => exact exportName?_get imports .createVNode

/-- The name of the factory stays its name after more requests. -/
theorem LeadsTo.factoryName? {imports imports' : Imports} (h : imports.LeadsTo imports')
    {name : String} (hname : imports.factoryName? = some name) :
    imports'.factoryName? = some name := by
  rw [Imports.factoryName?] at hname ⊢
  rw [h.pragma]
  cases hpragma : imports.pragma with
  | some pragma =>
    rw [hpragma] at hname
    exact hname
  | none =>
    rw [hpragma] at hname
    exact h.extends.exportName? hname

/-- A request hands out the name it returns. -/
theorem handsOut_request (imports : Imports) (source : String) (imported : Imported)
    (name : String) :
    (imports.request source imported name).2.HandsOut (imports.request source imported name).1 := by
  obtain ⟨entry, hf, he⟩ := Option.map_eq_some_iff.mp (find?_request imports source imported name)
  exact Or.inl ⟨entry, List.mem_of_find?_eq_some hf, he⟩

/-- The slot test is known by the name that a request for it returns. -/
theorem slotTest_isSlot (imports : Imports) :
    imports.isSlot.2.slotTest = some imports.isSlot.1 := by
  rw [isSlot]
  split
  · assumption
  · rfl

/-- The name of the slot test is handed out. -/
theorem handsOut_isSlot (imports : Imports) : imports.isSlot.2.HandsOut imports.isSlot.1 :=
  Or.inr (Or.inl (slotTest_isSlot imports))

/-- The name of the factory is handed out. -/
theorem handsOut_factory (imports : Imports) :
    imports.factory.2.HandsOut imports.factory.1 := by
  rw [factory]
  split
  · rename_i hp
    exact Or.inr (Or.inr hp)
  · exact handsOut_request _ _ _ _

/-- After a request something is imported. -/
theorem WellFormed.entries_serve_ne_nil {imports : Imports} (h : imports.WellFormed)
    (request : Request) : (imports.serve request).entries ≠ [] := by
  cases request with
  | runtime symbol => exact entries_request_ne_nil _ _ _ _
  | transformOn => exact entries_request_ne_nil _ _ _ _
  | slotTest =>
    rw [Imports.serve, Imports.isSlot]
    split
    · rename_i name hs
      exact h.slotTest (by rw [hs, Option.isSome_some])
    · exact entries_request_ne_nil _ _ _ _

/-- Starting from no requests, there is no entry exactly if nothing is requested. -/
theorem entries_serveAll_new_eq_nil_iff (options : Options) (bindings : Bindings)
    (requests : List Request) :
    ((new options bindings).serveAll requests).entries = [] ↔ requests = [] := by
  cases requests with
  | nil => exact iff_of_true rfl rfl
  | cons request requests =>
    refine iff_of_false ?_ (List.cons_ne_nil _ _)
    intro hn
    have hx := (extends_serveAll ((new options bindings).serve request) requests).entries
    rw [← serveAll_cons, hn, List.prefix_nil] at hx
    exact (wellFormed_new options bindings).entries_serve_ne_nil request hx

/-- Nothing is declared exactly if there is no entry. -/
theorem declarations_eq_nil_iff (imports : Imports) (kind : ProgramKind) :
    imports.declarations kind = [] ↔ imports.entries = [] := by
  cases he : imports.entries with
  | nil =>
    refine iff_of_true ?_ rfl
    have hs : imports.slotTestDeclarations = [] := by
      simp [slotTestDeclarations, find?, he]
    simp [declarations, sources, he, hs, NameSet.ofList, NameSet.insertAll]
  | cons entry entries =>
    refine iff_of_false ?_ (List.cons_ne_nil _ _)
    have hm : entry.source ∈ imports.sources := by
      rw [sources, NameSet.ofList, NameSet.mem_toList_insertAll, he]
      exact Or.inr List.mem_cons_self
    intro hn
    have hd := (List.append_eq_nil_iff.mp hn).1
    rw [List.map_eq_nil_iff] at hd
    rw [hd] at hm
    cases hm

end Imports

end JsxVNode
