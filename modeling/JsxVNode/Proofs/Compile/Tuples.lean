import JsxVNode.Proofs.Compile.Children
import Mathlib.Data.List.DropRight

/-!
# The tuples of runtime directives

Every attribute that the runtime applies becomes a tuple: the handle of the directive, and
then its value, its argument and its modifiers, as far as there are any. An entry that is
absent before another one is filled in, so the position of an entry tells what it is. The
tuples stand in the order of the attributes.
-/

namespace JsxVNode

/-- The handle that the runtime knows a directive by: its own export for `v-show` and for each kind
of model, and a call that looks up any other directive by its name. -/
inductive IsHandle (tag : ResolvedTag) (attrs : List Attr) (imports : Imports) (name : String) :
    Node → Prop where
  | shown (hn : name = "show") {ref : String} (h : imports.exportName? .vShow = some ref) :
      IsHandle tag attrs imports name (.ref ref)
  | model (hn : name = "model") {ref : String}
      (h : imports.exportName? (modelExport tag attrs) = some ref) :
      IsHandle tag attrs imports name (.ref ref)
  | lookup (hshow : name ≠ "show") (hmodel : name ≠ "model") {resolve : String}
      (h : imports.exportName? .resolveDirective = some resolve) :
      IsHandle tag attrs imports name (.invoke resolve [.str name])

theorem IsHandle.extends {tag : ResolvedTag} {attrs : List Attr} {imports imports' : Imports}
    {name : String} {handle : Node} (h : IsHandle tag attrs imports name handle)
    (hx : imports.Extends imports') : IsHandle tag attrs imports' name handle := by
  cases h with
  | shown hn h => exact .shown hn (hx.exportName? h)
  | model hn h => exact .model hn (hx.exportName? h)
  | lookup hshow hmodel h => exact .lookup hshow hmodel (hx.exportName? h)

namespace Compile

variable {s s' : Session}

/-- A name that was requested for an export is known by it. -/
theorem exportName?_of_get {symbol : Export} {ref : String}
    (h : Returns (Compile.get symbol) s ref s') : s'.imports.exportName? symbol = some ref := by
  obtain ⟨rfl, rfl⟩ := returns_request_iff.mp h
  exact Imports.exportName?_get _ _

/-- The handle of a directive is the one that its name calls for. -/
theorem isHandle_directiveHandle {name : String} {tag : ResolvedTag} {attrs : List Attr}
    {handle : Node} (h : Returns (directiveHandle name tag attrs) s handle s') :
    IsHandle tag attrs s'.imports name handle := by
  unfold directiveHandle at h
  split at h
  · rename_i hshow
    obtain ⟨ref, t, hget, h⟩ := returns_bind_iff.mp h
    obtain ⟨rfl, rfl⟩ := returns_pure_iff.mp h
    exact .shown hshow (exportName?_of_get hget)
  · rename_i hshow
    split at h
    · rename_i hmodel
      obtain ⟨ref, t, hget, h⟩ := returns_bind_iff.mp h
      obtain ⟨rfl, rfl⟩ := returns_pure_iff.mp h
      exact .model hmodel (exportName?_of_get hget)
    · rename_i hmodel
      obtain ⟨resolve, t, hget, h⟩ := returns_bind_iff.mp h
      obtain ⟨rfl, rfl⟩ := returns_pure_iff.mp h
      exact .lookup hshow hmodel (exportName?_of_get hget)

end Compile

/-- The modifiers of a directive whose value is an array. They are listed by its second element, if
that is an array, or by its third one after an argument. The modifiers in the name count only
without a second element of either kind. -/
def listedModifiers (ofName : NameSet) (elements : List Node) : NameSet :=
  match (Node.elementAt? elements 1).filter (!·.isSpread) with
  | none => ofName
  | some second =>
    if second.arrayElements?.isSome then modifiersOfNode second.unparen
    else
      match (Node.elementAt? elements 2).bind Node.elementExpr? with
      | some third => modifiersOfNode third.unparen
      | none => .empty

/-- The entry for modifiers; an empty list of them is the same as none. -/
def modifiersEntry? (modifiers : NameSet) : Option Node :=
  if modifiers.isEmpty then none else some (modifiersObject modifiers)

/-- The value, the argument and the modifiers that a directive hands to the runtime. The argument in
its name comes before the one that its value lists. -/
def DirectiveName.entries (name : DirectiveName) (value : Option Node) : List (Option Node) :=
  match value.bind Node.arrayElements? with
  | none => [value, name.argument.map .str, modifiersEntry? name.modifiers]
  | some elements =>
    [Node.firstBound? elements, name.argument.map .str <|> Node.listedArgument? elements,
      modifiersEntry? (listedModifiers name.modifiers elements)]

/-- A tuple with a handle and the given entries: those that are absent at its end are cut off, and
the others are filled in with `undefined`. -/
def Node.tuple (handle : Node) (entries : List (Option Node)) : Node :=
  .arrayOf (handle :: (entries.rdropWhile Option.isNone).map (·.getD .undefined))

/-- An element stays in front of what is left of the others; if nothing is left, it may go too. -/
theorem rdropWhile_cons {α : Type} (p : α → Bool) (a : α) (l : List α) :
    (a :: l).rdropWhile p =
      if (l.rdropWhile p).isEmpty then [a].rdropWhile p else a :: l.rdropWhile p := by
  simp only [List.rdropWhile, List.reverse_cons, List.dropWhile_append, List.isEmpty_reverse]
  split
  · rfl
  · rw [List.reverse_append]
    rfl

/-- A tuple ends with its last entry, and gaps before that are filled with `undefined`. -/
theorem fillTuple_eq (entries : List (Option Node)) :
    fillTuple entries = (entries.rdropWhile Option.isNone).map (·.getD .undefined) := by
  induction entries with
  | nil => rfl
  | cons entry rest ih =>
    rw [fillTuple, ih, rdropWhile_cons, List.isEmpty_map]
    cases hrest : (rest.rdropWhile Option.isNone).isEmpty with
    | true =>
      rw [List.isEmpty_iff.mp hrest]
      cases entry <;> rfl
    | false =>
      rw [Bool.and_false]
      rfl

/-- An entry has the modifiers that its array lists, or else those of the name. -/
theorem DirectiveEntry.modifiers_ofElements (keepPlace : Bool) (ofName : NameSet)
    (elements : List Node) :
    (ofElements keepPlace ofName elements).modifiers = listedModifiers ofName elements := by
  unfold ofElements listedModifiers Node.arrayElements?
  cases Node.elementAt? elements 1 with
  | none => rfl
  | some second =>
    rw [Option.filter_some]
    cases hspread : second.isSpread with
    | true => simp [hspread]
    | false =>
      cases hlisted : second.unparen.elements? with
      | some listed => simp [hspread, hlisted]
      | none =>
        cases (Node.elementAt? elements 2).bind Node.elementExpr? <;> simp [hspread, hlisted]

/-- The tuple of a directive with a single entry. -/
theorem directiveTuple_ofEntries_singleton (name : DirectiveName) (value : Option Node)
    (entry : DirectiveEntry) (handle : Node) :
    let parsed := ParsedDirective.ofEntries name value [entry]
    directiveTuple handle parsed.values.head?.join parsed.args.head?.join parsed.modifiers.head? =
      .tuple handle [entry.value, name.argument.map .str <|> entry.args.head?.join,
        modifiersEntry? entry.modifiers] := by
  have hargs : (name.argument.toList.map (some ∘ Node.str) ++ [entry].flatMap (·.args)).head?.join =
      (name.argument.map .str <|> entry.args.head?.join) := by
    rw [List.flatMap_singleton]
    cases name.argument <;> rfl
  have hmodifiers : ((some entry.modifiers).filter (!·.isEmpty)).map modifiersObject =
      modifiersEntry? entry.modifiers := by
    rw [Option.filter_some, modifiersEntry?]
    cases entry.modifiers.isEmpty <;> rfl
  dsimp only [ParsedDirective.ofEntries]
  rw [directiveTuple, fillTuple_eq, hargs]
  exact congrArg (fun modifiers => Node.tuple handle [_, _, modifiers]) hmodifiers

/-- The runtime is handed the entries of a directive that does not list several models. -/
theorem directiveTuple_ofEntries {name : DirectiveName} {value : Option Node} {fault : Fault}
    {entries : List DirectiveEntry} (hname : name.name ≠ "models")
    (h : directiveEntries name false value fault = .ok entries) (handle : Node) :
    let parsed := ParsedDirective.ofEntries name value entries
    directiveTuple handle parsed.values.head?.join parsed.args.head?.join parsed.modifiers.head? =
      .tuple handle (name.entries value) := by
  rw [directiveEntries_eq] at h
  rw [DirectiveName.entries]
  cases hvalue : value.bind Node.arrayElements? with
  | none =>
    rw [hvalue] at h
    cases h
    refine (directiveTuple_ofEntries_singleton name value _ handle).trans ?_
    simp
  | some elements =>
    rw [hvalue] at h
    dsimp only at h
    rw [if_neg hname] at h
    cases h
    refine (directiveTuple_ofEntries_singleton name value _ handle).trans ?_
    rw [DirectiveEntry.value_ofElements, head?_args_ofElements,
      DirectiveEntry.modifiers_ofElements]

open Compile

/-- An attribute is handed to the runtime by the tuple of its handle and the entries of its value,
which is compiled on the way from the first imports to the last. -/
inductive Attr.HandedOver (ctx : Context) (tag : ResolvedTag) (all : List Attr)
    (first last : Imports) : Attr → Node → Prop where
  | intro (span : Span) {name : AttrName} {attrValue : AttrValue} {value : Option Node}
      {handle : Node} (hvalue : ReturnsBetween first last (attrValue.compile ctx) value)
      (hhandle : IsHandle tag all last (DirectiveName.ofAttr name).name handle) :
      HandedOver ctx tag all first last (.named span name attrValue)
        (.tuple handle ((DirectiveName.ofAttr name).entries value))

namespace PropsState

/-- A directive adds its tuple after those before it, if it has one. -/
theorem directives_addParsed (state : PropsState) (parsed : ParsedDirective)
    (value : Option Node) :
    (state.addParsed parsed value).directives = state.directives ++ parsed.tuple.toList := by
  unfold addParsed
  split
  · rename_i tuple htuple
    rw [htuple]
    rfl
  · rename_i htuple
    rw [htuple, Option.toList_none, List.append_nil]
    split <;> rfl

theorem directives_noteAttr (state : PropsState) (name : String) (value : Option Node)
    (isComponent : Bool) :
    (state.noteAttr name value isComponent).directives = state.directives := by
  unfold noteAttr
  split <;> rfl

end PropsState

namespace Compile

variable {span : Span} {name : AttrName} {attrValue : AttrValue} {value : Option Node}
  {tag : ResolvedTag} {attrs : List Attr} {s s' : Session}

/-- A directive that the runtime applies is taken apart into its handle and its entries. -/
theorem exists_handle_parseDirective {parsed : ParsedDirective}
    (h : Returns (parseDirective span name attrValue value tag attrs) s parsed s') :
    ∀ tuple ∈ parsed.tuple, ∃ handle,
      IsHandle tag attrs s'.imports (DirectiveName.ofAttr name).name handle ∧
        tuple = .tuple handle ((DirectiveName.ofAttr name).entries value) := by
  obtain ⟨entries, hentries, ⟨_, _, rfl⟩ | ⟨hruntime, handle, hhandle, rfl⟩⟩ :=
    returns_parseDirective h
  · exact nofun
  · rintro tuple ⟨⟩
    have hname : (DirectiveName.ofAttr name).name ≠ "models" := by
      intro hname
      rw [hname] at hruntime
      cases hruntime
    rw [hruntime] at hentries
    exact ⟨handle, isHandle_directiveHandle hhandle, directiveTuple_ofEntries hname hentries handle⟩

/-- A directive adds its tuple after the others, if the runtime applies it. -/
theorem directives_applyDirective {state state' : PropsState}
    (h : Returns (applyDirective span name attrValue value tag attrs state) s state' s') :
    ∃ tuple : Option Node, state'.directives = state.directives ++ tuple.toList ∧
      tuple.isSome = baseGives tag.isComponent (DirectiveName.ofAttr name).name .directives ∧
      ∀ t ∈ tuple, ∃ handle,
        IsHandle tag attrs s'.imports (DirectiveName.ofAttr name).name handle ∧
          t = .tuple handle ((DirectiveName.ofAttr name).entries value) := by
  rw [applyDirective_eq] at h
  obtain ⟨parsed, t, hparsed, h⟩ := returns_bind_iff.mp h
  have hreads := reads_parseDirective _ _ _ _ _ _ _ _ _ hparsed
  have hadded : state'.directives = state.directives ++ parsed.tuple.toList ∧ t = s' := by
    split at h
    · rename_i hslots
      have hnone : parsed.tuple.isSome = false := by
        rw [hreads.tuple, ← hreads.name, hslots]
        rfl
      obtain ⟨rfl, rfl⟩ := returns_pure_iff.mp h
      rw [Option.isSome_eq_false_iff, Option.isNone_iff_eq_none] at hnone
      rw [hnone, Option.toList_none, List.append_nil]
      exact ⟨rfl, rfl⟩
    · split at h
      · obtain ⟨models, u, hmodels, h⟩ := returns_bind_iff.mp h
        obtain ⟨_, rfl⟩ := returns_ofExcept_iff.mp hmodels
        obtain ⟨rfl, rfl⟩ := returns_pure_iff.mp h
        exact ⟨state.directives_addParsed parsed value, rfl⟩
      · obtain ⟨rfl, rfl⟩ := returns_pure_iff.mp h
        exact ⟨state.directives_addParsed parsed value, rfl⟩
  obtain ⟨hdirectives, rfl⟩ := hadded
  exact ⟨parsed.tuple, hdirectives, hreads.tuple, exists_handle_parseDirective hparsed⟩

end Compile

namespace Attr

variable {ctx : Context} {tag : ResolvedTag} {all : List Attr} {first last : Imports}
  {state state' : PropsState} {s s' : Session}

/-- An attribute adds a tuple after the others if the runtime applies it. -/
theorem handedOver_compile {attr : Attr} (hs : first.LeadsTo s.imports)
    (h : Returns (attr.compile ctx tag all state) s state' s') (hs' : s'.imports.LeadsTo last) :
    ∃ tuple : Option Node, state'.directives = state.directives ++ tuple.toList ∧
      tuple.isSome = attr.isApplied tag.isComponent ∧
      ∀ t ∈ tuple, attr.HandedOver ctx tag all first last t := by
  have hnone {P : Node → Prop} : ∀ t ∈ (none : Option Node), P t :=
    fun t ht => absurd ht (Option.not_mem_none t)
  cases attr with
  | spread dots operand =>
    obtain ⟨rfl, rfl⟩ := returns_pure_iff.mp h
    exact ⟨none, (List.append_nil _).symm, rfl, hnone⟩
  | named span name attrValue =>
    obtain ⟨value, t, hvalue, h⟩ := returns_bind_iff.mp h
    have hrest := h.leadsTo (steps_makesRequests.applyAttr _ _ _ _ _ _ _ _)
    have hnoted := state.directives_noteAttr name.spelling value tag.isComponent
    cases hdirective : isDirectiveName name.spelling with
    | true =>
      rw [applyAttr_of_isDirectiveName _ _ _ _ _ _ _ hdirective] at h
      obtain ⟨tuple, hadded, hsome, htuple⟩ := directives_applyDirective h
      refine ⟨tuple, hadded, hsome.trans ?_, fun t ht => ?_⟩
      · rw [isApplied, directive?, if_pos hdirective]
        rfl
      · obtain ⟨handle, hhandle, rfl⟩ := htuple t ht
        exact .intro span ⟨s, _, hs, hvalue, hrest.trans hs'⟩ (hhandle.extends hs'.extends)
    | false =>
      have hplain : (Attr.named span name attrValue).isApplied tag.isComponent = false := by
        rw [isApplied, directive?, hdirective]
        rfl
      rw [applyAttr_eq, hdirective] at h
      dsimp only at h
      refine ⟨none, ?_, hplain.symm, hnone⟩
      rw [Option.toList_none, List.append_nil, ← hnoted]
      split at h
      · obtain ⟨expand, u, _, h⟩ := returns_bind_iff.mp h
        obtain ⟨rfl, rfl⟩ := returns_pure_iff.mp h
        rfl
      · obtain ⟨rfl, rfl⟩ := returns_pure_iff.mp h
        rfl

/-- The tuples that attributes add are those of the attributes that the runtime applies, in their
order. -/
theorem handedOver_compileAll {attrs : List Attr} (hs : first.LeadsTo s.imports)
    (h : Returns (Attr.compileAll ctx tag all state attrs) s state' s')
    (hs' : s'.imports.LeadsTo last) :
    ∃ tuples, state'.directives = state.directives ++ tuples ∧
      List.Forall₂ (Attr.HandedOver ctx tag all first last)
        (attrs.filter (·.isApplied tag.isComponent)) tuples := by
  induction attrs generalizing state s with
  | nil =>
    obtain ⟨rfl, rfl⟩ := returns_pure_iff.mp h
    exact ⟨[], (List.append_nil _).symm, .nil⟩
  | cons attr attrs ih =>
    obtain ⟨next, t, hattr, hrest⟩ := returns_bind_iff.mp h
    have hone := hattr.leadsTo (Attr.steps_compile steps_makesRequests _ _ _ _ _)
    have hothers := hrest.leadsTo (Attr.steps_compileAll steps_makesRequests _ _ _ _ _)
    obtain ⟨tuple, hadded, hsome, htuple⟩ := handedOver_compile hs hattr (hothers.trans hs')
    obtain ⟨tuples, htuples, hhanded⟩ := ih (hs.trans hone) hrest
    refine ⟨tuple.toList ++ tuples, ?_, ?_⟩
    · rw [htuples, hadded, List.append_assoc]
    · rw [List.filter_cons, ← hsome]
      cases tuple with
      | none => exact hhanded
      | some tuple => exact .cons (htuple tuple rfl) hhanded

end Attr

end JsxVNode
