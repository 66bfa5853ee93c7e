import JsxVNode.Proofs.Imports.Locals
import JsxVNode.Tree.Shape
import Mathlib.Data.List.Perm.Basic

/-!
# Reading the injected declarations

What a declaration loads is read off its syntax: the specifiers of an import, and in a
script the destructured properties and the default export of a `require` call. The
declarations at the head of a file load exactly the requested imports, those from one
module together, and they bind the local names of the imports and of the slot test.
-/

namespace JsxVNode

namespace Node

/-- What a specifier imports from a module. -/
def specifierImport? (source : String) : Node → Option Import
  | .form ⟨.importSpecifier, _, _⟩ [.ident bound, .ident imported] =>
    some ⟨source, .named imported.name, bound.name⟩
  | .form ⟨.importDefaultSpecifier, _, _⟩ [.ident bound] => some ⟨source, .default, bound.name⟩
  | _ => none

/-- The module that a `require` call loads. -/
def requiredModule? : Node → Option String
  | .call _ _ (.ident callee) [source] => if callee.name = "require" then source.string? else none
  | _ => none

/-- What a property of a pattern picks out of a module. -/
def propertyImport? (source : String) : Node → Option Import
  | .form ⟨.keyValuePatternProperty, _, _⟩ [.ident imported, .ident bound] =>
    some ⟨source, .named imported.name, bound.name⟩
  | _ => none

/-- What a declarator binds of a loaded module: a pattern binds the exports it names, and an
identifier the default export. -/
def declaratorImports : Node → List Import
  | .form ⟨.variableDeclarator, _, _⟩ [.form ⟨.objectPattern, _, _⟩ [.group properties], value] =>
    value.requiredModule?.elim [] fun source => properties.filterMap (propertyImport? source)
  | .form ⟨.variableDeclarator, _, _⟩
      [.ident bound, .form ⟨.memberExpression, _, _⟩ [value, .ident property]] =>
    if property.name = "default" then
      value.requiredModule?.toList.map fun source => ⟨source, .default, bound.name⟩
    else []
  | _ => []

/-- What a declaration binds of other modules. -/
def loadedImports : Node → List Import
  | .form ⟨.importDeclaration, _, _⟩ [.group specifiers, source] =>
    source.string?.elim [] fun source => specifiers.filterMap (specifierImport? source)
  | .form ⟨.variableDeclaration, _, _⟩ [.group declarators] =>
    declarators.flatMap declaratorImports
  | _ => []

end Node

variable {source : String} {entries : List Import}

/-- An import declaration loads the entries that it was made for, in their order. -/
theorem loadedImports_importDeclaration (h : ∀ entry ∈ entries, entry.source = source) :
    (importDeclaration source entries).loadedImports = entries := by
  have hs : ∀ entry ∈ entries,
      (Node.specifierImport? source ∘ Import.specifier) entry = some entry := by
    rintro ⟨source', imported, name⟩ hm
    cases h _ hm
    cases imported with
    | named name => rfl
    | default => rfl
  change (entries.map (·.specifier)).filterMap (Node.specifierImport? source) = entries
  rw [List.filterMap_map, List.filterMap_congr hs, List.filterMap_some]

/-- Whether the default export is imported. -/
def Import.isDefault (entry : Import) : Bool := entry.imported = .default

/-- The properties of a pattern load the exports that are not the default, in their order. -/
theorem requireProperties_eq (h : ∀ entry ∈ entries, entry.source = source) :
    (requireProperties entries).filterMap (Node.propertyImport? source) =
      entries.filter (!·.isDefault) := by
  induction entries with
  | nil => rfl
  | cons entry entries ih =>
    rw [List.forall_mem_cons] at h
    obtain ⟨source', imported, name⟩ := entry
    cases h.1
    cases imported with
    | named imported => exact congrArg _ (ih h.2)
    | default => exact ih h.2

/-- The declarators for defaults load the default exports, in their order. -/
theorem requireDefaults_eq (h : ∀ entry ∈ entries, entry.source = source) :
    (requireDefaults source entries).flatMap Node.declaratorImports =
      entries.filter (·.isDefault) := by
  induction entries with
  | nil => rfl
  | cons entry entries ih =>
    rw [List.forall_mem_cons] at h
    obtain ⟨source', imported, name⟩ := entry
    cases h.1
    cases imported with
    | named imported => exact ih h.2
    | default => exact congrArg _ (ih h.2)

/-- A declaration in a script loads the entries it is made from, default exports last. -/
theorem loadedImports_requireDeclaration_eq (h : ∀ entry ∈ entries, entry.source = source) :
    (requireDeclaration source entries).loadedImports =
      entries.filter (!·.isDefault) ++ entries.filter (·.isDefault) := by
  rw [← requireProperties_eq h, ← requireDefaults_eq h]
  unfold requireDeclaration
  dsimp only
  split
  · rename_i he
    rw [List.isEmpty_iff.mp he]
    rfl
  · rfl

/-- A declaration that calls `require` loads the entries that it was made for, the defaults apart
from the others. -/
theorem loadedImports_requireDeclaration (h : ∀ entry ∈ entries, entry.source = source) :
    (requireDeclaration source entries).loadedImports.Perm entries := by
  rw [loadedImports_requireDeclaration_eq h]
  exact List.perm_append_comm.trans (List.filter_append_perm _ _)

/-- The identifiers that a declaration binds around itself: the parameters of a function are bound
only inside it. -/
def Node.boundIds : Node → List Id
  | .form ⟨.functionDeclaration, _, _⟩ (.ident name :: _) => [name.id]
  | node => node.declaredIds

/-- The identifier that an import is bound to. -/
def Import.localId (entry : Import) : Id := ⟨entry.localName, 0⟩

/-- An import declaration binds the local names of its entries, in their order. -/
theorem declaredIds_importDeclaration (source : String) (entries : List Import) :
    (importDeclaration source entries).declaredIds = entries.map Import.localId := by
  have hs : Node.declaredIdsAll (entries.map (·.specifier)) = entries.map Import.localId := by
    induction entries with
    | nil => rfl
    | cons entry entries ih =>
      obtain ⟨source', imported, name⟩ := entry
      rw [List.map_cons, List.map_cons, Node.declaredIdsAll, ih]
      cases imported with
      | named name => rfl
      | default => rfl
  change Node.declaredIdsAll (entries.map (·.specifier)) ++ [] = _
  rw [List.append_nil, hs]

theorem patternIds_requireProperties (entries : List Import) :
    Node.patternIdsAll (requireProperties entries) =
      (entries.filter (!·.isDefault)).map Import.localId ∧
    Node.declaredIdsAll (requireProperties entries) = [] := by
  induction entries with
  | nil => exact ⟨rfl, rfl⟩
  | cons entry entries ih =>
    obtain ⟨source', imported, name⟩ := entry
    cases imported with
    | named name => exact ⟨congrArg _ ih.1, ih.2⟩
    | default => exact ih

theorem declaredIds_requireDefaults (source : String) (entries : List Import) :
    Node.declaredIdsAll (requireDefaults source entries) =
      (entries.filter (·.isDefault)).map Import.localId := by
  induction entries with
  | nil => rfl
  | cons entry entries ih =>
    obtain ⟨source', imported, name⟩ := entry
    cases imported with
    | named name => exact ih
    | default => exact congrArg _ ih

/-- A declaration that calls `require` binds the local names of its entries. -/
theorem declaredIds_requireDeclaration (source : String) (entries : List Import) :
    (requireDeclaration source entries).declaredIds.Perm (entries.map Import.localId) := by
  have hbound : (requireDeclaration source entries).declaredIds =
      (entries.filter (!·.isDefault) ++ entries.filter (·.isDefault)).map Import.localId := by
    obtain ⟨hp, hd⟩ := patternIds_requireProperties entries
    rw [List.map_append, ← hp, ← declaredIds_requireDefaults source]
    unfold requireDeclaration
    dsimp only
    split
    · rename_i he
      rw [List.isEmpty_iff.mp he]
      simp [Node.constants, Node.declaredIds, Form.declaredIds, Label.generated,
        Node.declaredIdsAll, Node.patternIdsAll]
    · simp [Node.constants, Node.declarator, Node.plain, requireCall, Node.invoke, Node.callOf,
        Node.ref, Node.str, Node.declaredIds, Form.declaredIds, Label.generated,
        Node.declaredIdsAll, Node.patternIds, Node.patternIdsAll, hd]
  rw [hbound]
  exact (List.perm_append_comm.trans (List.filter_append_perm _ _)).map _

namespace Imports

/-- The declarations that load modules. -/
def loads (imports : Imports) (kind : ProgramKind) : List Node :=
  imports.sources.map fun source =>
    match kind with
    | .module => importDeclaration source (imports.fromSource source)
    | .script => requireDeclaration source (imports.fromSource source)

/-- The declarations of a file load the modules first and define the slot test last. -/
theorem declarations_eq (imports : Imports) (kind : ProgramKind) :
    imports.declarations kind = imports.loads kind ++ imports.slotTestDeclarations := by
  cases kind <;> rfl

theorem source_of_mem_fromSource (imports : Imports) (source : String) :
    ∀ entry ∈ imports.fromSource source, entry.source = source := by
  intro entry hm
  exact beq_iff_eq.mp (List.mem_filter.mp hm).2

/-- Entries grouped by distinct keys that include all their sources are the same entries. -/
theorem perm_flatMap_filter_source {keys : List String} (hk : keys.Nodup) {entries : List Import}
    (h : ∀ entry ∈ entries, entry.source ∈ keys) :
    (keys.flatMap fun key => entries.filter (·.source == key)).Perm entries := by
  induction keys generalizing entries with
  | nil =>
    cases entries with
    | nil => exact .nil
    | cons entry entries => cases h entry List.mem_cons_self
  | cons key keys ih =>
    rw [List.nodup_cons] at hk
    -- The entries of the other keys are those that are left when the first key is done.
    have hrest : (keys.flatMap fun other => entries.filter (·.source == other)) =
        keys.flatMap fun other =>
          (entries.filter (!·.source == key)).filter (·.source == other) := by
      refine List.flatMap_congr fun other hm => ?_
      rw [List.filter_filter]
      refine List.filter_congr fun entry _ => ?_
      by_cases he : entry.source = other
      · subst he
        have hne : entry.source ≠ key := by
          rintro rfl
          exact hk.1 hm
        simp [hne]
      · simp [he]
    rw [List.flatMap_cons, hrest]
    have hkeys : ∀ entry ∈ entries.filter (!·.source == key), entry.source ∈ keys := by
      intro entry hm
      obtain ⟨hentry, hne⟩ := List.mem_filter.mp hm
      rcases List.mem_cons.mp (h entry hentry) with heq | hmem
      · simp [heq] at hne
      · exact hmem
    exact ((ih hk.2 hkeys).append_left _).trans (List.filter_append_perm _ _)

/-- The entries grouped by their modules are the entries in another order. -/
theorem perm_grouped (imports : Imports) : imports.grouped.Perm imports.entries := by
  refine perm_flatMap_filter_source (NameSet.ofList _).nodup fun entry hm => ?_
  rw [NameSet.ofList, NameSet.mem_toList_insertAll]
  exact Or.inr (List.mem_map_of_mem hm)

/-- The declarations of a file load its imports. -/
theorem loadedImports_loads (imports : Imports) (kind : ProgramKind) :
    ((imports.loads kind).flatMap Node.loadedImports).Perm imports.entries := by
  refine .trans ?_ imports.perm_grouped
  rw [loads, List.flatMap_map, grouped]
  refine List.Perm.flatMap_left _ fun source _ => ?_
  cases kind with
  | module =>
    exact .of_eq (loadedImports_importDeclaration (imports.source_of_mem_fromSource source))
  | script => exact loadedImports_requireDeclaration (imports.source_of_mem_fromSource source)

/-- The declarations of a file bind the local names of its imports. -/
theorem boundIds_loads (imports : Imports) (kind : ProgramKind) :
    ((imports.loads kind).flatMap Node.boundIds).Perm (imports.entries.map Import.localId) := by
  refine .trans ?_ (imports.perm_grouped.map _)
  rw [loads, List.flatMap_map, grouped, List.map_flatMap]
  refine List.Perm.flatMap_left _ fun source _ => ?_
  cases kind with
  | module => exact .of_eq (declaredIds_importDeclaration _ _)
  | script =>
    have hbound : (requireDeclaration source (imports.fromSource source)).boundIds =
        (requireDeclaration source (imports.fromSource source)).declaredIds := by
      unfold requireDeclaration
      dsimp only
      split <;> rfl
    rw [hbound]
    exact declaredIds_requireDeclaration _ _

/-- A module is loaded only if some entry comes from it. -/
theorem fromSource_ne_nil {imports : Imports} {source : String} (h : source ∈ imports.sources) :
    imports.fromSource source ≠ [] := by
  rw [sources, NameSet.ofList, NameSet.mem_toList_insertAll] at h
  obtain ⟨entry, hm, rfl⟩ := List.mem_map.mp (h.resolve_left List.not_mem_nil)
  exact List.ne_nil_of_mem (List.mem_filter.mpr ⟨hm, beq_self_eq_true _⟩)

/-- Each of them loads something. -/
theorem loadedImports_ne_nil_of_mem_loads {imports : Imports} {kind : ProgramKind} {load : Node}
    (h : load ∈ imports.loads kind) : load.loadedImports ≠ [] := by
  obtain ⟨source, hs, rfl⟩ := List.mem_map.mp h
  have hentries := fromSource_ne_nil hs
  cases kind with
  | module =>
    rw [loadedImports_importDeclaration (imports.source_of_mem_fromSource source)]
    exact hentries
  | script =>
    intro hn
    have hp := loadedImports_requireDeclaration (imports.source_of_mem_fromSource source)
    rw [hn] at hp
    exact hentries hp.nil_eq.symm

/-- No two imports are bound to the same identifier. -/
theorem WellFormed.nodup_localIds {imports : Imports} (h : imports.WellFormed) :
    (imports.entries.map Import.localId).Nodup := by
  have hmap : imports.entries.map Import.localId =
      (imports.entries.map (·.localName)).map fun name => ⟨name, 0⟩ := by
    rw [List.map_map]
    rfl
  rw [hmap]
  exact h.nodup.map fun a b hab => congrArg Id.name hab

namespace ServedBy

variable {options : Options} {declared : List String} {requests : List Request}
  {imports : Imports}

/-- The slot test is declared exactly if it was requested: under its local name, and with a call of
the local name of what it needs. -/
theorem slotTestDeclarations_eq (h : ServedBy options declared requests imports) :
    imports.slotTestDeclarations =
      if .slotTest ∈ requests then
        [slotTestDeclaration (Request.slotTest.localName declared)
          (Request.needed .slotTest |>.localName declared)]
      else [] := by
  unfold slotTestDeclarations
  rw [h.slotTest]
  by_cases hs : .slotTest ∈ requests
  · rcases h.find?_cases .slotTest with ⟨hf, _⟩ | ⟨_, hnew⟩
    · have hnode : imports.find? imports.runtimeModule (.named Export.isVNode.name) =
          some (Request.needed .slotTest |>.localName declared) := by
        rw [h.runtimeModule]
        exact hf
      rw [if_pos hs, if_pos hs, hnode]
    · exact absurd rfl (hnew .slotTest hs)
  · rw [if_neg hs, if_neg hs]

/-- No import is bound to the local name of the slot test. -/
theorem localName_ne_slotTest (h : ServedBy options declared requests imports) {entry : Import}
    (hm : entry ∈ imports.entries) : entry.localName ≠ Request.slotTest.localName declared := by
  obtain ⟨request, _, rfl⟩ := (h.entries entry).mp hm
  intro he
  exact request.needed_ne_slotTest (Request.localName_injective declared he)

/-- The declarations bind no identifier twice. -/
theorem nodup_boundIds (h : ServedBy options declared requests imports)
    (hw : imports.WellFormed) (kind : ProgramKind) :
    ((imports.loads kind ++ imports.slotTestDeclarations).flatMap Node.boundIds).Nodup := by
  have hentries := hw.nodup_localIds
  rw [List.flatMap_append, h.slotTestDeclarations_eq]
  refine ((imports.boundIds_loads kind).append_right _).nodup_iff.mpr ?_
  split
  · refine hentries.append (List.nodup_singleton _) ?_
    intro id hid hid'
    obtain ⟨entry, hm, rfl⟩ := List.mem_map.mp hid
    exact h.localName_ne_slotTest hm (congrArg Id.name (List.mem_singleton.mp hid'))
  · rw [List.flatMap_nil, List.append_nil]
    exact hentries

/-- The local name of every entry is bound by the declarations. -/
theorem localId_mem_loads {entry : Import} (hm : entry ∈ imports.entries) (kind : ProgramKind) :
    entry.localId ∈ (imports.loads kind).flatMap Node.boundIds :=
  (imports.boundIds_loads kind).mem_iff.mpr (List.mem_map_of_mem hm)

/-- The slot test has its name exactly if it is declared. -/
theorem slotTest_eq_some_iff (h : ServedBy options declared requests imports) {name : String} :
    imports.slotTest = some name ↔
      .slotTest ∈ requests ∧ name = Request.slotTest.localName declared := by
  rw [h.slotTest]
  split
  · rename_i hr
    rw [Option.some_inj, eq_comm]
    exact (and_iff_right hr).symm
  · rename_i hr
    exact iff_of_false nofun fun hn => hr hn.1

/-- A name that was handed out is bound exactly once, unless the options name it. -/
theorem count_boundIds (h : ServedBy options declared requests imports)
    (hw : imports.WellFormed) (kind : ProgramKind) {name : String} (hn : imports.HandsOut name) :
    options.pragma = some name ∨
      ((imports.loads kind ++ imports.slotTestDeclarations).flatMap Node.boundIds).count
        ⟨name, 0⟩ = 1 := by
  rcases hn with ⟨entry, hm, rfl⟩ | hs | hp
  · refine Or.inr (List.count_eq_one_of_mem (h.nodup_boundIds hw kind) ?_)
    rw [List.flatMap_append]
    exact List.mem_append_left _ (localId_mem_loads hm kind)
  · obtain ⟨hr, rfl⟩ := h.slotTest_eq_some_iff.mp hs
    refine Or.inr (List.count_eq_one_of_mem (h.nodup_boundIds hw kind) ?_)
    rw [List.flatMap_append, h.slotTestDeclarations_eq, if_pos hr]
    exact List.mem_append_right _ (List.mem_singleton_self _)
  · exact Or.inl (h.pragma ▸ hp)

/-- The local name of an export that was not requested is not handed out, unless the options name
it. -/
theorem pragma_of_handsOut (h : ServedBy options declared requests imports) {symbol : Export}
    (hsymbol : symbol ≠ .isVNode) (hnot : .runtime symbol ∉ requests)
    (hn : imports.HandsOut (Request.localName declared (.runtime symbol))) :
    options.pragma = some (Request.localName declared (.runtime symbol)) := by
  rcases hn with ⟨entry, hm, he⟩ | hs | hp
  · obtain ⟨request, hr, rfl⟩ := (h.entries entry).mp hm
    have hne : request ≠ .runtime symbol := fun heq => hnot (heq ▸ hr)
    exact absurd (Request.localName_injective declared he) (Request.needed_ne_runtime hsymbol hne)
  · obtain ⟨_, hname⟩ := h.slotTest_eq_some_iff.mp hs
    cases Request.localName_injective declared hname
  · exact h.pragma ▸ hp

/-- Nor is it bound. -/
theorem localId_not_mem_boundIds (h : ServedBy options declared requests imports)
    {symbol : Export} (hsymbol : symbol ≠ .isVNode) (hnot : .runtime symbol ∉ requests)
    (kind : ProgramKind) :
    (⟨Request.localName declared (.runtime symbol), 0⟩ : Id) ∉
      (imports.loads kind ++ imports.slotTestDeclarations).flatMap Node.boundIds := by
  rw [List.flatMap_append, List.mem_append, (imports.boundIds_loads kind).mem_iff,
    h.slotTestDeclarations_eq]
  rintro (hload | htest)
  · obtain ⟨entry, hm, he⟩ := List.mem_map.mp hload
    obtain ⟨request, hr, rfl⟩ := (h.entries entry).mp hm
    have hne : request ≠ .runtime symbol := fun heq => hnot (heq ▸ hr)
    have hlocal := Request.localName_injective declared (congrArg Id.name he)
    exact Request.needed_ne_runtime hsymbol hne hlocal
  · split at htest
    · cases Request.localName_injective declared
        (congrArg Id.name (List.mem_singleton.mp htest))
    · cases htest

/-- The order of the requests does not matter for what is imported. -/
theorem perm_entries {requests' : List Request} {imports' : Imports}
    (h : ServedBy options declared requests imports)
    (h' : ServedBy options declared requests' imports') (hw : imports.WellFormed)
    (hw' : imports'.WellFormed) (hr : requests.Perm requests') :
    imports.entries.Perm imports'.entries := by
  rw [List.perm_ext_iff_of_nodup hw.nodup.of_map hw'.nodup.of_map]
  intro entry
  rw [h.entries, h'.entries]
  simp only [hr.mem_iff]

end ServedBy

section

variable (options : Options) (bindings : Bindings) {requests requests' : List Request}

/-- Whether the slot test is declared, and how, does not depend on the order of the requests. -/
theorem slotTestDeclarations_of_perm (hr : requests.Perm requests') :
    ((new options bindings).serveAll requests).slotTestDeclarations =
      ((new options bindings).serveAll requests').slotTestDeclarations := by
  rw [(servedBy_serveAll options bindings requests).slotTestDeclarations_eq,
    (servedBy_serveAll options bindings requests').slotTestDeclarations_eq]
  simp only [hr.mem_iff]

/-- What is loaded, and under which names, does not depend on the order of the requests. -/
theorem loadedImports_of_perm (kind : ProgramKind) (hr : requests.Perm requests') :
    ((((new options bindings).serveAll requests).loads kind).flatMap Node.loadedImports).Perm
      ((((new options bindings).serveAll requests').loads kind).flatMap Node.loadedImports) := by
  have hwell := wellFormed_new options bindings
  have hentries := (servedBy_serveAll options bindings requests).perm_entries
    (servedBy_serveAll options bindings requests') (hwell.serveAll requests)
    (hwell.serveAll requests') hr
  exact (loadedImports_loads _ kind).trans (hentries.trans (loadedImports_loads _ kind).symm)

end

end Imports

end JsxVNode
