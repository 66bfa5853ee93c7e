import JsxVNode.Proofs.Imports.Requests
import Mathlib.Data.List.Induction

/-!
# The local names of imports

A request returns the first of `_name`, `_name2`, `_name3` and so on that the file
does not declare, whatever was requested before it. The names handed out earlier are
taken as well, but the names tried for one symbol are never those tried for another:
without the digits at their end they are the name of their symbol. So the imports of
a file are determined, up to their order, by the set of the requests.
-/

namespace JsxVNode

namespace Imports

/-- A name is the first of `base`, `base2`, `base3` and so on that is not declared. -/
def FirstFree (declared : List String) (base name : String) : Prop :=
  ∃ n, name = candidate base n ∧ candidate base n ∉ declared ∧
    ∀ m < n, candidate base m ∈ declared

/-- The search ends with the first free name. -/
theorem firstFree_fresh (declared : List String) (base : String) :
    FirstFree declared base (fresh declared base) := by
  have hfree := fresh_not_mem declared base
  unfold fresh at hfree ⊢
  cases hf : ((List.range (declared.length + 1)).map (candidate base)).find?
      (!declared.contains ·) with
  | none =>
    -- Then the search falls back on `base`, which is the first candidate itself.
    rw [hf] at hfree
    exact ⟨0, rfl, hfree, fun m hm => absurd hm (Nat.not_lt_zero m)⟩
  | some name =>
    obtain ⟨hn, n, hlt, rfl, hlow⟩ := List.find?_eq_some_iff_getElem.mp hf
    rw [List.length_map, List.length_range] at hlt
    simp only [List.getElem_map, List.getElem_range] at hn hlow
    refine ⟨n, ?_, by simpa using hn, fun m hm => by simpa using hlow m hm⟩
    simp only [List.getElem_map, List.getElem_range, Option.getD_some]

/-- The first free name depends only on which candidates are declared. -/
theorem FirstFree.eq_of_mem_iff {declared declared' : List String} {base name name' : String}
    (h : FirstFree declared base name) (h' : FirstFree declared' base name')
    (hd : ∀ n, candidate base n ∈ declared ↔ candidate base n ∈ declared') : name = name' := by
  obtain ⟨n, rfl, hfree, hlow⟩ := h
  obtain ⟨n', rfl, hfree', hlow'⟩ := h'
  rcases Nat.lt_trichotomy n n' with hlt | heq | hgt
  · exact absurd ((hd n).mpr (hlow' n hlt)) hfree
  · rw [heq]
  · exact absurd ((hd n').mp (hlow n' hgt)) hfree'

/-- The characters of a name from the last to the first, without the digits at its end. -/
def stem (name : String) : List Char := name.toList.reverse.dropWhile Char.isDigit

/-- A number at the end of a name does not change its stem. -/
theorem stem_candidate (base : String) (n : Nat) : stem (candidate base n) = stem base := by
  cases n with
  | zero => rfl
  | succ n =>
    have hdigits : ∀ c ∈ (toString (n + 2)).toList.reverse, c.isDigit = true := by
      intro c hc
      rw [List.mem_reverse, Nat.toString_eq_repr, Nat.toList_repr] at hc
      exact Nat.isDigit_of_mem_toDigits (by decide) (by decide) hc
    rw [stem, candidate, String.toList_append, List.reverse_append,
      List.dropWhile_append_of_pos hdigits, stem]

namespace Request

/-- The name of the symbol that is requested. -/
def symbol : Request → String
  | .runtime symbol => symbol.name
  | .transformOn => "transformOn"
  | .slotTest => "isSlot"

/-- The first name tried for a symbol. -/
def base (request : Request) : String := "_" ++ request.symbol

/-- All requests there are. -/
def all : List Request :=
  [.runtime .createVNode, .runtime .withDirectives, .runtime .mergeProps,
    .runtime .resolveComponent, .runtime .resolveDirective, .runtime .fragment, .runtime .isVNode,
    .runtime .vShow, .runtime .vModelText, .runtime .vModelCheckbox, .runtime .vModelRadio,
    .runtime .vModelSelect, .runtime .vModelDynamic, .transformOn, .slotTest]

/-- No request is missing from the list. -/
theorem mem_all (request : Request) : request ∈ all := by
  cases request with
  | runtime symbol => cases symbol <;> decide
  | transformOn => decide
  | slotTest => decide

/-- No two symbols have the same stem: none of their names ends with a digit. -/
theorem stem_base_injective : Function.Injective fun request : Request => stem request.base := by
  have hnodup : (all.map fun request => stem request.base).Nodup := by decide
  intro r r' h
  exact List.inj_on_of_nodup_map hnodup (mem_all r) (mem_all r') h

/-- The local name of a symbol in a file that declares the given names. -/
def localName (declared : List String) (request : Request) : String :=
  fresh declared request.base

theorem stem_localName (declared : List String) (request : Request) :
    stem (request.localName declared) = stem request.base := by
  obtain ⟨n, hn, _, _⟩ := firstFree_fresh declared request.base
  rw [localName, hn, stem_candidate]

/-- The local name of a symbol is a candidate of that symbol alone. -/
theorem eq_of_localName_eq_candidate {declared : List String} {r r' : Request} {n : Nat}
    (h : r'.localName declared = candidate r.base n) : r' = r := by
  have hs := congrArg stem h
  rw [stem_localName, stem_candidate] at hs
  exact stem_base_injective hs

/-- Different symbols have different local names. -/
theorem localName_injective (declared : List String) :
    Function.Injective (localName declared) := by
  intro r r' h
  obtain ⟨n, hn, _, _⟩ := firstFree_fresh declared r'.base
  exact eq_of_localName_eq_candidate (h.trans hn)

/-- The local name of a symbol is not declared in the file. -/
theorem localName_not_mem (declared : List String) (request : Request) :
    request.localName declared ∉ declared :=
  fresh_not_mem declared request.base

/-- The request for the import that serves a request: the function that tells slots from nodes is
declared in the file and needs the import it calls. -/
def needed : Request → Request
  | .slotTest => .runtime .isVNode
  | request => request

/-- What a request imports from a module. -/
def imported : Request → Imported
  | .runtime symbol => .named symbol.name
  | .transformOn => .default
  | .slotTest => .named Export.isVNode.name

/-- The module that a request imports from. -/
def source (options : Options) : Request → String
  | .transformOn => options.transformOnModule
  | _ => options.runtimeModule

/-- The import that serves a request. -/
def entry (options : Options) (declared : List String) (request : Request) : Import :=
  ⟨request.source options, request.imported, request.needed.localName declared⟩

/-- No request needs the slot test as an import. -/
theorem needed_ne_slotTest (request : Request) : request.needed ≠ .slotTest := by
  cases request <;> nofun

/-- Every request but the one for the slot test needs just what it requests. -/
theorem needed_of_ne {request : Request} (h : request ≠ .slotTest) : request.needed = request := by
  cases request with
  | slotTest => exact absurd rfl h
  | _ => rfl

/-- An export is needed only by the request for it and, perhaps, by the slot test. -/
theorem needed_ne_runtime {symbol : Export} (hsymbol : symbol ≠ .isVNode) {request : Request}
    (hne : request ≠ .runtime symbol) : request.needed ≠ .runtime symbol := by
  intro hneeded
  cases request with
  | slotTest => exact hsymbol (Request.runtime.inj hneeded).symm
  | runtime other => exact hne hneeded
  | transformOn => cases hneeded

/-- What is imported tells which request needs it. -/
theorem needed_eq_of_imported_eq {r r' : Request} (h : r.imported = r'.imported) :
    r.needed = r'.needed := by
  have hnames : Function.Injective Export.name := by
    intro e e' he
    cases e <;> cases e' <;> first | rfl | exact absurd he (by decide)
  cases r with
  | runtime e =>
    cases r' with
    | runtime e' => exact congrArg Request.runtime (hnames (Imported.named.inj h))
    | transformOn => cases h
    | slotTest => exact congrArg Request.runtime (hnames (Imported.named.inj h))
  | transformOn =>
    cases r' with
    | transformOn => rfl
    | _ => cases h
  | slotTest =>
    cases r' with
    | runtime e' => exact congrArg Request.runtime (hnames (Imported.named.inj h))
    | transformOn => cases h
    | slotTest => rfl

/-- Requests that need the same import have the same entry. -/
theorem entry_eq_of_needed_eq (options : Options) (declared : List String) {r r' : Request}
    (h : r.needed = r'.needed) : r.entry options declared = r'.entry options declared := by
  cases r <;> cases r' <;> cases h <;> rfl

end Request

/-- What the imports of a file are after some requests, whatever their order: every request has
its import, the slot test stands under its own name, and no name is taken beyond the declared ones
and those that were handed out. -/
structure ServedBy (options : Options) (declared : List String) (requests : List Request)
    (imports : Imports) : Prop where
  runtimeModule : imports.runtimeModule = options.runtimeModule
  transformOnModule : imports.transformOnModule = options.transformOnModule
  pragma : imports.pragma = options.pragma
  entries : ∀ entry, entry ∈ imports.entries ↔
    ∃ request ∈ requests, entry = request.entry options declared
  slotTest : imports.slotTest =
    if .slotTest ∈ requests then some (Request.slotTest.localName declared) else none
  declared_taken : ∀ name ∈ declared, name ∈ imports.taken
  taken : ∀ name ∈ imports.taken, name ∈ declared ∨ ∃ request ∈ requests,
    name = request.localName declared ∨ name = request.needed.localName declared

namespace ServedBy

variable {options : Options} {declared : List String} {requests : List Request}
  {imports : Imports}

theorem new (options : Options) (bindings : Bindings) :
    ServedBy options bindings.names [] (Imports.new options bindings) := by
  refine ⟨rfl, rfl, rfl, ?_, rfl, fun _ h => h, fun _ h => Or.inl h⟩
  simp [Imports.new]

/-- The name chosen for a symbol that was not requested before is its first free name: the names
that were handed out are candidates of other symbols. -/
theorem fresh_taken (h : ServedBy options declared requests imports) {r : Request}
    (hnew : ∀ r' ∈ requests, r' ≠ r ∧ r'.needed ≠ r) :
    fresh imports.taken r.base = r.localName declared := by
  refine (firstFree_fresh _ _).eq_of_mem_iff (firstFree_fresh declared r.base) fun n => ?_
  constructor
  · intro hn
    rcases h.taken _ hn with hd | ⟨r', hr, hname | hname⟩
    · exact hd
    · exact absurd (Request.eq_of_localName_eq_candidate hname.symm) (hnew r' hr).1
    · exact absurd (Request.eq_of_localName_eq_candidate hname.symm) (hnew r' hr).2
  · exact h.declared_taken _

/-- The import of a request is there under its local name, or it was not requested before. -/
theorem find?_cases (h : ServedBy options declared requests imports) (request : Request) :
    imports.find? (request.source options) request.imported =
          some (request.needed.localName declared) ∧
        request.entry options declared ∈ imports.entries ∨
      imports.find? (request.source options) request.imported = none ∧
        ∀ r ∈ requests, r.needed ≠ request.needed := by
  unfold find?
  cases hf : imports.entries.find? fun e =>
      e.source == request.source options && e.imported == request.imported with
  | some entry =>
    have hmem := List.mem_of_find?_eq_some hf
    obtain ⟨r, _, rfl⟩ := (h.entries entry).mp hmem
    have hkey := List.find?_some hf
    simp only [Bool.and_eq_true, beq_iff_eq] at hkey
    have hentry := Request.entry_eq_of_needed_eq options declared
      (Request.needed_eq_of_imported_eq hkey.2)
    rw [hentry] at hmem ⊢
    exact Or.inl ⟨rfl, hmem⟩
  | none =>
    refine Or.inr ⟨rfl, fun r hr heq => ?_⟩
    have hmem := (h.entries _).mpr ⟨r, hr, rfl⟩
    rw [Request.entry_eq_of_needed_eq options declared heq] at hmem
    have hkey := List.find?_eq_none.mp hf _ hmem
    simp [Request.entry] at hkey

/-- The names that are taken after some requests may be taken after one more. -/
theorem taken_append (h : ServedBy options declared requests imports) (request : Request) :
    ∀ name ∈ imports.taken, name ∈ declared ∨ ∃ r ∈ requests ++ [request],
      name = r.localName declared ∨ name = r.needed.localName declared := by
  intro name hname
  rcases h.taken name hname with hd | ⟨r, hmem, hn⟩
  · exact Or.inl hd
  · exact Or.inr ⟨r, List.mem_append_left _ hmem, hn⟩

/-- A request whose import is there changes nothing. -/
theorem again (h : ServedBy options declared requests imports) {request : Request}
    (hmem : request.entry options declared ∈ imports.entries)
    (hslot : request = .slotTest → .slotTest ∈ requests) :
    ServedBy options declared (requests ++ [request]) imports := by
  refine ⟨h.runtimeModule, h.transformOnModule, h.pragma, fun entry => ?_, ?_, h.declared_taken,
    h.taken_append request⟩
  · constructor
    · intro hentry
      obtain ⟨r, hr, rfl⟩ := (h.entries entry).mp hentry
      exact ⟨r, List.mem_append_left _ hr, rfl⟩
    · rintro ⟨r, hr, rfl⟩
      rcases List.mem_append.mp hr with hr | hr
      · exact (h.entries _).mpr ⟨r, hr, rfl⟩
      · rw [List.mem_singleton.mp hr]
        exact hmem
  · have hiff : .slotTest ∈ requests ++ [request] ↔ .slotTest ∈ requests := by
      rw [List.mem_append, List.mem_singleton]
      exact or_iff_left_of_imp fun heq => hslot heq.symm
    simp only [hiff, h.slotTest]

/-- A request for a new import adds it under its local name. -/
theorem added (h : ServedBy options declared requests imports) {request : Request}
    (hr : request ≠ .slotTest) :
    ServedBy options declared (requests ++ [request]) { imports with
      entries := imports.entries ++ [request.entry options declared]
      taken := imports.taken ++ [request.localName declared] } := by
  refine ⟨h.runtimeModule, h.transformOnModule, h.pragma, fun entry => ?_, ?_, ?_, ?_⟩
  · rw [List.mem_append, h.entries, List.mem_singleton]
    simp only [List.mem_append, List.mem_singleton, or_and_right, exists_or, exists_eq_left]
  · have hiff : .slotTest ∈ requests ++ [request] ↔ .slotTest ∈ requests := by
      rw [List.mem_append, List.mem_singleton]
      exact or_iff_left_of_imp fun heq => absurd heq.symm hr
    simp only [hiff, h.slotTest]
  · intro name hname
    exact List.mem_append_left _ (h.declared_taken name hname)
  · intro name hname
    rcases List.mem_append.mp hname with hname | hname
    · exact h.taken_append request name hname
    · rw [List.mem_singleton.mp hname]
      exact Or.inr ⟨request, List.mem_append_right _ (List.mem_singleton_self _), Or.inl rfl⟩

/-- A request for an import returns its local name. -/
theorem request (h : ServedBy options declared requests imports) {r : Request}
    (hr : r ≠ .slotTest) :
    (imports.request (r.source options) r.imported r.symbol).1 = r.localName declared ∧
      ServedBy options declared (requests ++ [r])
        (imports.request (r.source options) r.imported r.symbol).2 := by
  have hneeded := Request.needed_of_ne hr
  unfold Imports.request
  rcases h.find?_cases r with ⟨hf, hmem⟩ | ⟨hf, hnew⟩
  · rw [hf, hneeded]
    exact ⟨rfl, h.again hmem fun heq => absurd heq hr⟩
  · have hchosen : fresh imports.taken ("_" ++ r.symbol) = r.localName declared := by
      refine h.fresh_taken fun r' hmem => ⟨?_, ?_⟩
      · rintro rfl
        exact hnew r' hmem rfl
      · intro heq
        exact hnew r' hmem (heq.trans hneeded.symm)
    have hadded := h.added hr
    rw [Request.entry, hneeded] at hadded
    rw [hf]
    dsimp only
    rw [hchosen]
    exact ⟨rfl, hadded⟩

/-- A request for the slot test returns its local name. -/
theorem isSlot (h : ServedBy options declared requests imports) :
    imports.isSlot.1 = Request.slotTest.localName declared ∧
      ServedBy options declared (requests ++ [.slotTest]) imports.isSlot.2 := by
  by_cases hold : .slotTest ∈ requests
  · have hs := h.slotTest
    rw [if_pos hold] at hs
    unfold Imports.isSlot
    rw [hs]
    exact ⟨rfl, h.again ((h.entries _).mpr ⟨.slotTest, hold, rfl⟩) fun _ => hold⟩
  · have hs := h.slotTest
    rw [if_neg hold] at hs
    -- The import that the slot test calls is requested first.
    have hget : imports.get .isVNode = imports.request (Request.source options (.runtime .isVNode))
        (Request.imported (.runtime .isVNode)) (Request.symbol (.runtime .isVNode)) := by
      rw [Imports.get, getNamed, h.runtimeModule]
      rfl
    have hw := (h.request (r := .runtime .isVNode) nofun).2
    rw [← hget] at hw
    have hchosen : fresh (imports.get .isVNode).2.taken "_isSlot" =
        Request.slotTest.localName declared := by
      refine hw.fresh_taken (r := .slotTest) fun r hmem => ⟨?_, r.needed_ne_slotTest⟩
      rintro rfl
      rcases List.mem_append.mp hmem with hmem | hmem
      · exact hold hmem
      · cases List.mem_singleton.mp hmem
    unfold Imports.isSlot
    rw [hs]
    dsimp only
    rw [hchosen]
    refine ⟨rfl, hw.runtimeModule, hw.transformOnModule, hw.pragma, fun entry => ?_, ?_, ?_, ?_⟩
    · rw [hw.entries]
      simp only [List.mem_append, List.mem_singleton, or_and_right, exists_or, exists_eq_left]
      rfl
    · simp
    · intro name hname
      exact List.mem_append_left _ (hw.declared_taken name hname)
    · intro name hname
      rcases List.mem_append.mp hname with hname | hname
      · rcases hw.taken name hname with hd | ⟨r, hmem, hn⟩
        · exact Or.inl hd
        · rcases List.mem_append.mp hmem with hmem | hmem
          · exact Or.inr ⟨r, List.mem_append_left _ hmem, hn⟩
          · rw [List.mem_singleton.mp hmem] at hn
            exact Or.inr ⟨.slotTest, by simp, Or.inr (hn.elim id id)⟩
      · rw [List.mem_singleton.mp hname]
        exact Or.inr ⟨.slotTest, by simp, Or.inl rfl⟩

end ServedBy

/-- The name that a request returns. -/
def answer (imports : Imports) : Request → String
  | .runtime symbol => (imports.get symbol).1
  | .transformOn => imports.transformOn.1
  | .slotTest => imports.isSlot.1

/-- One request: it returns the local name of its symbol, and it is served from then on. -/
theorem ServedBy.serve {options : Options} {declared : List String} {requests : List Request}
    {imports : Imports} (h : ServedBy options declared requests imports) (request : Request) :
    imports.answer request = request.localName declared ∧
      ServedBy options declared (requests ++ [request]) (imports.serve request) := by
  cases request with
  | runtime symbol =>
    have hsource : Request.source options (.runtime symbol) = imports.runtimeModule :=
      h.runtimeModule.symm
    have hr := h.request (r := .runtime symbol) nofun
    rw [hsource] at hr
    exact hr
  | transformOn =>
    have hsource : Request.source options .transformOn = imports.transformOnModule :=
      h.transformOnModule.symm
    have hr := h.request (r := .transformOn) nofun
    rw [hsource] at hr
    exact hr
  | slotTest => exact h.isSlot

/-- All requests to a file are served under the local names of their symbols. -/
theorem servedBy_serveAll (options : Options) (bindings : Bindings) (requests : List Request) :
    ServedBy options bindings.names requests ((new options bindings).serveAll requests) := by
  induction requests using List.reverseRecOn with
  | nil => exact .new options bindings
  | append_singleton requests request ih =>
    rw [serveAll_append]
    exact (ih.serve request).2

/-- Two states of the imports know the same: every import has the same local name in both or is in
neither, and so has the slot test. In which order the imports were requested does not count. -/
structure Agrees (a b : Imports) : Prop where
  find? : ∀ source imported, a.find? source imported = b.find? source imported
  slotTest : a.slotTest = b.slotTest

/-- An import is found exactly if it is among the entries: no two entries import the same. -/
theorem ServedBy.find?_eq_some_iff {options : Options} {declared : List String}
    {requests : List Request} {imports : Imports}
    (h : ServedBy options declared requests imports) {source : String} {imported : Imported}
    {name : String} :
    imports.find? source imported = some name ↔ ⟨source, imported, name⟩ ∈ imports.entries := by
  refine ⟨mem_entries_of_find?, fun hmem => ?_⟩
  obtain ⟨request, hr, he⟩ := (h.entries _).mp hmem
  obtain ⟨rfl, rfl, rfl⟩ := Import.mk.inj he
  rcases h.find?_cases request with ⟨hf, _⟩ | ⟨_, hnew⟩
  · exact hf
  · exact absurd rfl (hnew request hr)

/-- An export that was not requested is not imported, unless the slot test needs it. -/
theorem ServedBy.imported_ne {options : Options} {declared : List String}
    {requests : List Request} {imports : Imports}
    (h : ServedBy options declared requests imports) {symbol : Export}
    (hsymbol : symbol ≠ .isVNode) (hnot : .runtime symbol ∉ requests) :
    ∀ entry ∈ imports.entries, entry.imported ≠ .named symbol.name := by
  intro entry hmem himported
  obtain ⟨request, hrequest, rfl⟩ := (h.entries entry).mp hmem
  have heq : request.imported = Request.imported (.runtime symbol) := himported
  have hne : request ≠ .runtime symbol := fun he => hnot (he ▸ hrequest)
  exact Request.needed_ne_runtime hsymbol hne (Request.needed_eq_of_imported_eq heq)

/-- The imports of a file are determined, up to their order, by the set of the requests. -/
theorem ServedBy.agrees {options : Options} {declared : List String}
    {requests requests' : List Request} {a b : Imports}
    (ha : ServedBy options declared requests a) (hb : ServedBy options declared requests' b)
    (hsame : ∀ request, request ∈ requests' ↔ request ∈ requests) : a.Agrees b := by
  refine ⟨fun source imported => Option.ext fun name => ?_, ?_⟩
  · simp only [ha.find?_eq_some_iff, hb.find?_eq_some_iff, ha.entries, hb.entries, hsame]
  · simp only [ha.slotTest, hb.slotTest, hsame]

/-- What the compiler asks of the imports: a request, or the name of the node factory. -/
inductive Call where
  | ask (request : Request)
  | factory
  deriving DecidableEq, Repr

namespace Call

/-- The answer to a call, and the imports after it. -/
def run : Call → Imports → String × Imports
  | .ask request, imports => (imports.answer request, imports.serve request)
  | .factory, imports => imports.factory

/-- The request that a call makes if the options name no factory. -/
def toRequest : Call → Request
  | .ask request => request
  | .factory => .runtime .createVNode

end Call

/-- The answers to calls made one after the other. -/
def answers (imports : Imports) : List Call → List String
  | [] => []
  | call :: calls => (call.run imports).1 :: (call.run imports).2.answers calls

/-- Each call is answered by the local name of its symbol. -/
theorem ServedBy.answers {options : Options} {declared : List String} {requests : List Request}
    {imports : Imports} (h : ServedBy options declared requests imports) {calls : List Call}
    (hp : options.pragma = none ∨ .factory ∉ calls) :
    imports.answers calls = calls.map fun call => call.toRequest.localName declared := by
  induction calls generalizing requests imports with
  | nil => rfl
  | cons call calls ih =>
    have hrun : call.run imports =
        (imports.answer call.toRequest, imports.serve call.toRequest) := by
      cases call with
      | ask request => rfl
      | factory =>
        have hnone : options.pragma = none := hp.resolve_right fun hn => hn List.mem_cons_self
        rw [Call.run, Imports.factory, h.pragma, hnone]
        rfl
    obtain ⟨hanswer, hserved⟩ := h.serve call.toRequest
    have hrest := ih hserved (hp.imp id fun hn hm => hn (List.mem_cons_of_mem _ hm))
    rw [Imports.answers, hrun, List.map_cons, hanswer, hrest]

/-- The local names of a file are fresh and do not depend on what is requested when. Any calls, in
any order and with repetitions, are answered by the first names `_S`, `_S2`, `_S3` and so on of
their symbols that the file does not declare. These names depend only on which names are declared,
they are different for different symbols, and none of them is declared. -/
theorem answers_firstFree (options : Options) (program : Program) (calls : List Call)
    (hp : options.pragma = none ∨ .factory ∉ calls) :
    let declared := (Bindings.ofProgram program).names
    let name := fun request : Request => fresh declared request.base
    (new options (.ofProgram program)).answers calls = calls.map (fun call => name call.toRequest) ∧
      (∀ request, FirstFree declared ("_" ++ request.symbol) (name request)) ∧
      (∀ declared' : List String, (∀ n, n ∈ declared' ↔ n ∈ declared) →
        ∀ request, fresh declared' request.base = name request) ∧
      Function.Injective name ∧
      ∀ request, name request ∉ declared := by
  intro declared name
  refine ⟨?_, ?_, ?_, Request.localName_injective declared, Request.localName_not_mem declared⟩
  · exact (ServedBy.new options (.ofProgram program)).answers hp
  · intro request
    exact firstFree_fresh declared request.base
  · intro declared' hsame request
    exact (firstFree_fresh declared' _).eq_of_mem_iff (firstFree_fresh declared _)
      fun n => hsame (candidate request.base n)

/-- The script `function _createVNode() { return null; }`, which declares the first name tried for
the factory. -/
def factoryNamesake : Program where
  kind := .script
  span := .dummy
  interpreter := none
  body := [.functionReturning "_createVNode" [] .null]

/-- Beside its namesake the factory gets the second name, before another request and after it. -/
theorem factoryNamesake_answers_firstFree :
    let declared := (Bindings.ofProgram factoryNamesake).names
    let calls : List Call := [.factory, .ask .slotTest, .factory]
    Options.default.pragma = none ∧ declared = ["_createVNode"] ∧
      (new .default (.ofProgram factoryNamesake)).answers calls =
        ["_createVNode2", "_isSlot", "_createVNode2"] ∧
      FirstFree declared ("_" ++ Call.factory.toRequest.symbol) "_createVNode2" := by
  intro declared calls
  obtain ⟨hanswers, hfree, _⟩ :=
    answers_firstFree .default factoryNamesake calls (Or.inl rfl)
  have hname : fresh declared Call.factory.toRequest.base = "_createVNode2" := by decide +kernel
  have hslot : fresh declared Request.slotTest.base = "_isSlot" := by decide +kernel
  refine ⟨rfl, rfl, ?_, ?_⟩
  · rw [hanswers]
    simp only [calls, List.map_cons, List.map_nil]
    rw [hname]
    exact congrArg (["_createVNode2", ·, "_createVNode2"]) hslot
  · rw [← hname]
    exact hfree _

end Imports

end JsxVNode
