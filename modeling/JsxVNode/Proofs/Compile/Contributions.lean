import JsxVNode.Proofs.Compile.Coverage
import Mathlib.Data.List.Forall2

/-!
# What attributes contribute

Each attribute contributes one piece to the props argument of its element: properties,
the call that expands a map of handlers, or the operand of a spread. With it the
attribute notes names whose values can change, and whether it has names that are not
known. The props argument, the flag and the names of a construction are made of the
contributions of all attributes, in order; later proofs reason about these and no
longer about the attributes.
-/

namespace JsxVNode

/-- What an attribute adds to the props argument. -/
inductive Piece where
  | properties (properties : List Node)
  /-- The call that expands a map of handlers. -/
  | handlers (call : Node)
  | spread (operand : Node)

/-- The builder after a piece was added. -/
def PropsBuilder.add (b : PropsBuilder) : Piece → PropsBuilder
  | .properties properties => b.extend properties
  | .handlers call => b.pushFragment call
  | .spread operand => b.pushSpread operand

/-- What an attribute contributes to its element. -/
structure Contribution where
  piece : Piece
  /-- The names it notes as those of properties that can change. -/
  names : List String
  /-- It notes that some property name is not known. -/
  unknown : Bool

/-- The builder after several contributions. -/
def PropsBuilder.addAll (b : PropsBuilder) (contributions : List Contribution) : PropsBuilder :=
  contributions.foldl (fun b c => b.add c.piece) b

/-- Contributions are added to a builder one after the other. -/
theorem PropsBuilder.addAll_cons (b : PropsBuilder) (c : Contribution)
    (contributions : List Contribution) :
    b.addAll (c :: contributions) = (b.add c.piece).addAll contributions := rfl

/-- Whether an attribute is a map of handlers that is expanded. -/
def Attr.isExpanded (options : Options) : Attr → Bool
  | .named _ name _ => options.transformOn && (name.spelling == "on" || name.spelling == "nativeOn")
  | .spread .. => false

/-- The directives that set properties. -/
def propertyDirectives : List String := ["html", "text", "model", "models"]

/-- Whether an attribute can add to the props argument. Most directives do not, and the operand of
a spread does not if it is an object literal without properties. -/
def Attr.addsProps : Attr → Bool
  | .named _ name _ =>
    !isDirectiveName name.spelling || propertyDirectives.contains (DirectiveName.ofAttr name).name
  | .spread _ (.object _ []) => false
  | .spread .. => true

/-- How an attribute contributes. A name that is noted is that of one of the properties, but for
two kinds of attributes: one whose property has another name, and a map of handlers, which has no
property at all. -/
inductive Attr.Contributes (options : Options) (imports : Imports) : Attr → Contribution → Prop
  | spread (dots : Span) (operand : Node) :
      Contributes options imports (.spread dots operand) ⟨.spread operand, [], true⟩
  | handlers {span : Span} {name : AttrName} {value : AttrValue} {expand : String} (arg : Node)
      {names : List String} (hexpanded : (Attr.named span name value).isExpanded options = true)
      (hexpand : imports.find? imports.transformOnModule .default = some expand)
      (hnames : ∀ noted ∈ names, noted = name.spelling ∧ noted = "nativeOn") :
      Contributes options imports (.named span name value)
        ⟨.handlers (.invoke expand [arg]), names, false⟩
  | properties {span : Span} {name : AttrName} {value : AttrValue} {properties : List Node}
      {names : List String} {unknown : Bool}
      (hexpanded : (Attr.named span name value).isExpanded options = false)
      (hspread : ∀ property ∈ properties, property.isSpread = false)
      (hnames : ∀ noted ∈ names, (∃ property ∈ properties, property.propertyName? = some noted) ∨
        noted = name.spelling ∧ (Attr.named span name value).isXlink = true)
      (hknown : unknown = false → ∀ property ∈ properties, property.propertyName?.isSome = true)
      (hadds : (Attr.named span name value).addsProps = false → properties = []) :
      Contributes options imports (.named span name value) ⟨.properties properties, names, unknown⟩

/-- What an attribute contributes it still contributes after more requests. -/
theorem Attr.Contributes.mono {options : Options} {imports imports' : Imports} {attr : Attr}
    {c : Contribution} (hx : imports.Extends imports') (h : attr.Contributes options imports c) :
    attr.Contributes options imports' c := by
  cases h with
  | spread dots operand => exact .spread dots operand
  | handlers arg hexpanded hexpand hnames =>
    refine .handlers arg hexpanded ?_ hnames
    rw [hx.transformOnModule]
    exact hx.find? hexpand
  | properties hexpanded hspread hnames hknown hadds =>
    exact .properties hexpanded hspread hnames hknown hadds

/-- Each contribution is that of an attribute. -/
theorem Attr.exists_contributes {options : Options} {imports : Imports} {attrs : List Attr}
    {contributions : List Contribution}
    (h : List.Forall₂ (Attr.Contributes options imports) attrs contributions) {c : Contribution}
    (hc : c ∈ contributions) : ∃ attr ∈ attrs, attr.Contributes options imports c := by
  induction h with
  | nil => cases hc
  | cons hfirst _ ih =>
    rcases List.mem_cons.mp hc with rfl | hrest
    · exact ⟨_, List.mem_cons_self, hfirst⟩
    · obtain ⟨attr, hattr, hcontributes⟩ := ih hrest
      exact ⟨attr, List.mem_cons_of_mem _ hattr, hcontributes⟩

/-- A state of the properties arises from another by contributions. -/
structure PropsState.Gathers (state : PropsState) (contributions : List Contribution)
    (state' : PropsState) : Prop where
  builder : state'.builder = state.builder.addAll contributions
  names : ∀ name ∈ state'.analysis.dynamicNames.toList,
    name ∈ state.analysis.dynamicNames.toList ∨ ∃ c ∈ contributions, name ∈ c.names
  keys : state'.analysis.hasDynamicKeys =
    (state.analysis.hasDynamicKeys || contributions.any (·.unknown))

namespace PropsState

theorem Gathers.nil (state : PropsState) : state.Gathers [] state :=
  ⟨rfl, fun _ h => Or.inl h, (Bool.or_false _).symm⟩

/-- One contribution comes before the others. -/
theorem Gathers.cons {state next last : PropsState} {c : Contribution}
    {contributions : List Contribution} (h : state.Gathers [c] next)
    (h' : next.Gathers contributions last) : state.Gathers (c :: contributions) last := by
  refine ⟨?_, fun name hname => ?_, ?_⟩
  · rw [h'.builder, h.builder]
    rfl
  · rcases h'.names name hname with hnext | ⟨other, hother, hmem⟩
    · rcases h.names name hnext with hold | ⟨other, hother, hmem⟩
      · exact Or.inl hold
      · rw [List.mem_singleton.mp hother] at hmem
        exact Or.inr ⟨c, List.mem_cons_self, hmem⟩
    · exact Or.inr ⟨other, List.mem_cons_of_mem _ hother, hmem⟩
  · rw [h'.keys, h.keys, List.any_cons, List.any_cons, List.any_nil, Bool.or_false,
      Bool.or_assoc]

/-- The names that one state has noted and another has not. -/
def newNames (state state' : PropsState) : List String :=
  state'.analysis.dynamicNames.toList.filter (· ∉ state.analysis.dynamicNames.toList)

/-- The new names of a state are those that were not listed before. -/
theorem mem_newNames {state state' : PropsState} {name : String} :
    name ∈ state.newNames state' ↔ name ∈ state'.analysis.dynamicNames.toList ∧
      name ∉ state.analysis.dynamicNames.toList := by
  simp only [newNames, List.mem_filter, decide_eq_true_eq]

/-- A single contribution, whose names are those that are new. -/
theorem gathers_singleton {state state' : PropsState} {piece : Piece} {unknown : Bool}
    (hb : state'.builder = state.builder.add piece)
    (hk : state'.analysis.hasDynamicKeys = (state.analysis.hasDynamicKeys || unknown)) :
    state.Gathers [⟨piece, state.newNames state', unknown⟩] state' := by
  refine ⟨hb, fun name hname => ?_, by rw [hk, List.any_cons, List.any_nil, Bool.or_false]⟩
  by_cases hold : name ∈ state.analysis.dynamicNames.toList
  · exact Or.inl hold
  · exact Or.inr ⟨_, List.mem_singleton_self _, mem_newNames.mpr ⟨hname, hold⟩⟩

end PropsState

namespace PropsState

/-- Only the name of an attribute is added by its note, and not if the attribute is a directive or
a map of handlers. -/
theorem mem_names_noteAttr {state : PropsState} {name noted : String} {value : Option Node}
    {isComponent : Bool}
    (h : noted ∈ (state.noteAttr name value isComponent).analysis.dynamicNames.toList) :
    noted ∈ state.analysis.dynamicNames.toList ∨
      noted = name ∧ name ≠ "on" ∧ isDirectiveName name = false := by
  unfold noteAttr at h
  split at h
  · unfold PropsAnalysis.noteDynamic at h
    dsimp only at h
    split at h
    · exact Or.inl h
    · split at h
      · exact Or.inl h
      · split at h
        · exact Or.inl h
        · split at h
          · exact Or.inl h
          · rename_i hplain
            simp only [not_or, Bool.not_eq_true] at hplain
            exact (NameSet.mem_toList_insert.mp h).imp id fun heq => ⟨heq, hplain.2⟩
  · exact Or.inl h

/-- The note that an attribute leaves never concerns unknown names. -/
theorem hasDynamicKeys_noteAttr (state : PropsState) (name : String) (value : Option Node)
    (isComponent : Bool) :
    (state.noteAttr name value isComponent).analysis.hasDynamicKeys =
      state.analysis.hasDynamicKeys := by
  unfold noteAttr
  split
  · unfold PropsAnalysis.noteDynamic
    dsimp only
    split
    · rfl
    · split
      · rfl
      · split
        · rfl
        · split <;> rfl
  · rfl

theorem builder_noteAttr (state : PropsState) (name : String) (value : Option Node)
    (isComponent : Bool) : (state.noteAttr name value isComponent).builder = state.builder := by
  unfold noteAttr
  split <;> rfl

end PropsState

/-- The names that models note are those of their properties, and all their properties have names
that are known unless a model says otherwise. -/
structure ModelProps.Named (models : ModelProps) : Prop where
  spread : ∀ property ∈ models.props, property.isSpread = false
  names : ∀ name ∈ models.dynamicNames,
    ∃ property ∈ models.props, property.propertyName? = some name
  known : models.hasDynamicKeys = false →
    ∀ property ∈ models.props, property.propertyName?.isSome = true

namespace ModelProps

/-- The properties of a model are pairs with one of three keys. -/
theorem exists_key_of_mem_ofModel {onComponent : Bool} {name : ModelName}
    {modifiers : Option NameSet} {value target property : Node}
    (h : property ∈ (ofModel onComponent name modifiers value target).props) :
    ∃ key content, property = .pair key content ∧
      (key = name.valueKey ∨ key = name.modifiersKey ∨ key = name.handlerKey) := by
  have hprops : property ∈ (if onComponent then Node.pair name.valueKey value ::
        ((modifiers.filter (!·.isEmpty)).map fun modifiers =>
          Node.pair name.modifiersKey (modifiersObject modifiers)).toList
      else []) ++ [Node.pair name.handlerKey (updateHandler target)] := by
    unfold ofModel at h
    cases hm : modifiers.filter (!·.isEmpty) with
    | none =>
      rw [hm] at h
      cases name <;> exact h
    | some modifiers =>
      rw [hm] at h
      cases name <;> exact h
  rcases List.mem_append.mp hprops with hvalue | hhandler
  · split at hvalue
    · rcases List.mem_cons.mp hvalue with rfl | hmodifiers
      · exact ⟨_, _, rfl, Or.inl rfl⟩
      · obtain ⟨listed, _, rfl⟩ := Option.map_eq_some_iff.mp (Option.mem_toList.mp hmodifiers)
        exact ⟨_, _, rfl, Or.inr (Or.inl rfl)⟩
    · cases hvalue
  · exact ⟨_, _, List.mem_singleton.mp hhandler, Or.inr (Or.inr rfl)⟩

/-- The properties of one model have names, unless the model makes a name unknown. -/
theorem named_ofModel (onComponent : Bool) (name : ModelName) (modifiers : Option NameSet)
    (value target : Node) : (ofModel onComponent name modifiers value target).Named := by
  refine ⟨fun property hp => ?_, fun noted hnoted => ?_, fun hk property hp => ?_⟩
  · obtain ⟨key, content, rfl, _⟩ := exists_key_of_mem_ofModel hp
    rfl
  · cases name with
    | dynamic expr => cases hnoted
    | static text =>
      rcases List.mem_append.mp hnoted with hvalue | hhandler
      · cases onComponent with
        | false => cases hvalue
        | true =>
          rw [List.mem_singleton.mp hvalue]
          exact ⟨_, List.mem_append_left _ List.mem_cons_self, rfl⟩
      · rw [List.mem_singleton.mp hhandler]
        exact ⟨_, List.mem_append_right _ (List.mem_singleton_self _), rfl⟩
  · cases name with
    | dynamic expr => cases hk
    | static text =>
      obtain ⟨key, content, rfl, rfl | rfl | rfl⟩ := exists_key_of_mem_ofModel hp
      · rfl
      · rw [Node.propertyName?, ModelName.modifiersKey]
        split <;> rfl
      · rfl

theorem Named.append {a b : ModelProps} (ha : a.Named) (hb : b.Named) : (a.append b).Named := by
  refine ⟨List.forall_mem_append.mpr ⟨ha.spread, hb.spread⟩, fun name hname => ?_, fun hk => ?_⟩
  · rcases List.mem_append.mp hname with hname | hname
    · obtain ⟨property, hp, hn⟩ := ha.names name hname
      exact ⟨property, List.mem_append_left _ hp, hn⟩
    · obtain ⟨property, hp, hn⟩ := hb.names name hname
      exact ⟨property, List.mem_append_right _ hp, hn⟩
  · obtain ⟨hka, hkb⟩ := Bool.or_eq_false_iff.mp hk
    exact List.forall_mem_append.mpr ⟨ha.known hka, hb.known hkb⟩

end ModelProps

/-- The properties of several models have names, unless one of them makes a name unknown. -/
theorem named_modelPropsOf {onComponent : Bool} {fault : Fault}
    {values args : List (Option Node)} {modifiers : List NameSet} {models : ModelProps}
    (h : modelPropsOf onComponent fault values args modifiers = .ok models) : models.Named :=
  modelPropsOf_induction
    ⟨List.forall_mem_nil _, List.forall_mem_nil _, fun _ => List.forall_mem_nil _⟩
    (ModelProps.named_ofModel onComponent) ModelProps.Named.append h

/-- A state of the properties arises from another by adding properties, the names of some of them,
and what is said about unknown names. -/
structure PropsState.Adds (state : PropsState) (properties : List Node) (unknown : Bool)
    (state' : PropsState) : Prop where
  builder : state'.builder = state.builder.extend properties
  spread : ∀ property ∈ properties, property.isSpread = false
  names : ∀ name ∈ state'.analysis.dynamicNames.toList,
    name ∈ state.analysis.dynamicNames.toList ∨
      ∃ property ∈ properties, property.propertyName? = some name
  keys : state'.analysis.hasDynamicKeys = (state.analysis.hasDynamicKeys || unknown)
  known : unknown = false → ∀ property ∈ properties, property.propertyName?.isSome = true

namespace PropsState

theorem adds_nil {state state' : PropsState} (hb : state'.builder = state.builder)
    (ha : state'.analysis = state.analysis) : state.Adds [] false state' := by
  refine ⟨?_, List.forall_mem_nil _, fun name hname => Or.inl ?_, ?_,
    fun _ => List.forall_mem_nil _⟩
  · rw [hb, PropsBuilder.extend, List.append_nil]
  · rw [← ha]
    exact hname
  · rw [ha, Bool.or_false]

/-- A directive adds its content property at most, and no unknown name. -/
theorem adds_addParsed (state : PropsState) (parsed : ParsedDirective) (value : Option Node) :
    ∃ properties, state.Adds properties false (state.addParsed parsed value) ∧
      (contentProperty? parsed.name = none → properties = []) := by
  unfold addParsed
  split
  · exact ⟨[], adds_nil rfl rfl, fun _ => rfl⟩
  · split
    · rename_i property hcontent
      refine ⟨[.pair (.str property) ((parsed.values.head?.join <|> value).getD .undefined)],
        ⟨rfl, ?_, fun name hname => ?_, (Bool.or_false _).symm, fun _ => ?_⟩, fun hnone => ?_⟩
      · exact List.forall_mem_singleton.mpr rfl
      · rcases NameSet.mem_toList_insertAll.mp hname with hold | hnew
        · exact Or.inl hold
        · rw [List.mem_singleton.mp hnew]
          exact Or.inr ⟨_, List.mem_singleton_self _, rfl⟩
      · exact List.forall_mem_singleton.mpr rfl
      · rw [hcontent] at hnone
        cases hnone
    · exact ⟨[], adds_nil rfl rfl, fun _ => rfl⟩

/-- Models add their properties after what the directive has added, and with them their unknown
names. -/
theorem Adds.addModels {state state' : PropsState} {properties : List Node}
    (h : state.Adds properties false state') {models : ModelProps} (hm : models.Named) :
    state.Adds (properties ++ models.props) models.hasDynamicKeys (state'.addModels models) := by
  refine ⟨?_, List.forall_mem_append.mpr ⟨h.spread, hm.spread⟩, fun name hname => ?_, ?_,
    fun hk => List.forall_mem_append.mpr ⟨h.known rfl, hm.known hk⟩⟩
  · change state'.builder.extend models.props = _
    rw [h.builder, PropsBuilder.extend, PropsBuilder.extend, PropsBuilder.extend,
      List.append_assoc]
  · rcases NameSet.mem_toList_insertAll.mp hname with hold | hnew
    · refine (h.names name hold).imp id ?_
      rintro ⟨property, hp, hn⟩
      exact ⟨property, List.mem_append_left _ hp, hn⟩
    · obtain ⟨property, hp, hn⟩ := hm.names name hnew
      exact Or.inr ⟨property, List.mem_append_right _ hp, hn⟩
  · change (state'.analysis.hasDynamicKeys || models.hasDynamicKeys) = _
    rw [h.keys, Bool.or_false]

end PropsState

/-- Models are among the directives that set properties. -/
theorem contains_of_isModel {parsed : ParsedDirective} (h : parsed.isModel = true) :
    propertyDirectives.contains parsed.name = true := by
  simp only [ParsedDirective.isModel, Bool.or_eq_true, beq_iff_eq] at h
  rcases h with hname | hname
  · rw [hname]
    rfl
  · rw [hname]
    rfl

/-- So are the directives for content. -/
theorem contentProperty?_eq_none {name : String} (h : propertyDirectives.contains name = false) :
    contentProperty? name = none := by
  simp only [propertyDirectives, List.contains_eq_mem, decide_eq_false_iff_not, List.mem_cons,
    not_or] at h
  unfold contentProperty?
  rw [if_neg h.1, if_neg h.2.1]

namespace Compile

/-- A directive adds properties, and none if it is not one of those that set them. -/
theorem adds_applyDirective (span : Span) (name : AttrName) (attrValue : AttrValue)
    (value : Option Node) (tag : ResolvedTag) (attrs : List Attr) (state : PropsState) :
    Yields (applyDirective span name attrValue value tag attrs state) fun state' =>
      ∃ properties unknown, state.Adds properties unknown state' ∧
        (propertyDirectives.contains (DirectiveName.ofAttr name).name = false →
          properties = []) := by
  rw [applyDirective_eq]
  refine Yields.bind (name_parseDirective _ _ _ _ _ _) fun parsed hname => ?_
  rw [← hname]
  obtain ⟨properties, hadds, hcontent⟩ := state.adds_addParsed parsed value
  split
  · exact yields_pure ⟨[], false, PropsState.adds_nil rfl rfl, fun _ => rfl⟩
  · split
    · rename_i hmodel
      refine Yields.bind (yields_ofExcept fun models hmodels => hmodels) fun models hmodels => ?_
      refine yields_pure ⟨_, _, hadds.addModels (named_modelPropsOf hmodels), fun hother => ?_⟩
      rw [contains_of_isModel hmodel] at hother
      cases hother
    · refine yields_pure ⟨properties, false, hadds, fun hother => hcontent ?_⟩
      exact contentProperty?_eq_none hother

end Compile

open Compile

/-- An attribute contributes one piece. -/
theorem Attr.gathers_compile {ctx : Context} {tag : ResolvedTag} {all : List Attr} {attr : Attr}
    {state state' : PropsState} {s s' : Session}
    (h : Returns (attr.compile ctx tag all state) s state' s') :
    ∃ c, attr.Contributes ctx.options s'.imports c ∧ state.Gathers [c] state' := by
  cases attr with
  | spread dots operand =>
    obtain ⟨rfl, rfl⟩ := returns_pure_iff.mp h
    exact ⟨_, .spread dots operand, rfl, fun _ hn => Or.inl hn, (Bool.or_true _).symm⟩
  | named span name attrValue =>
    obtain ⟨value, t, _, h⟩ := returns_bind_iff.mp h
    have hbuilder := state.builder_noteAttr name.spelling value tag.isComponent
    have hkeys := state.hasDynamicKeys_noteAttr name.spelling value tag.isComponent
    rw [applyAttr_eq] at h
    dsimp only at h
    split at h
    · rename_i hexpanded
      obtain ⟨expand, u, he, h⟩ := returns_bind_iff.mp h
      obtain ⟨rfl, rfl⟩ := returns_pure_iff.mp h
      obtain ⟨rfl, rfl⟩ := returns_request_iff.mp he
      refine ⟨_, .handlers (value.getD (.bool true)) ?_ (Imports.find?_transformOn t.imports)
        fun noted hnoted => ?_,
        PropsState.gathers_singleton ?_ (hkeys.trans (Bool.or_false _).symm)⟩
      · simpa [Attr.isExpanded] using hexpanded
      · obtain ⟨hnew, hold⟩ := PropsState.mem_newNames.mp hnoted
        obtain ⟨rfl, hon, _⟩ := (PropsState.mem_names_noteAttr hnew).resolve_left hold
        exact ⟨rfl, hexpanded.2.resolve_left hon⟩
      · exact congrArg (PropsBuilder.pushFragment · _) hbuilder
    · rename_i hexpanded
      have hplain : (Attr.named span name attrValue).isExpanded ctx.options = false := by
        rw [← Bool.not_eq_true]
        simpa [Attr.isExpanded] using hexpanded
      split at h
      · rename_i hdirective
        obtain ⟨properties, unknown, hadds, hnone⟩ := adds_applyDirective _ _ _ _ _ _ _ _ _ _ h
        refine ⟨_, .properties hplain hadds.spread (fun noted hnoted => Or.inl ?_) hadds.known
          (fun hnot => hnone (Bool.or_eq_false_iff.mp hnot).2),
          PropsState.gathers_singleton ?_ (hadds.keys.trans (congrArg (· || unknown) hkeys))⟩
        · obtain ⟨hnew, hold⟩ := PropsState.mem_newNames.mp hnoted
          refine (hadds.names noted hnew).resolve_left fun hnote => ?_
          obtain ⟨_, _, hnot⟩ := (PropsState.mem_names_noteAttr hnote).resolve_left hold
          rw [hdirective] at hnot
          cases hnot
        · rw [hadds.builder, hbuilder]
          rfl
      · rename_i hdirective
        obtain ⟨rfl, rfl⟩ := returns_pure_iff.mp h
        let property : Node :=
          .pair (.str (propertyNameOf name.spelling)) (value.getD (.bool true))
        have hspread : ∀ other ∈ [property], other.isSpread = false :=
          List.forall_mem_singleton.mpr rfl
        refine ⟨_, .properties hplain hspread (fun noted hnoted => ?_)
          (fun _ => List.forall_mem_singleton.mpr rfl) (fun hnot => absurd hnot ?_),
          PropsState.gathers_singleton ?_ (hkeys.trans (Bool.or_false _).symm)⟩
        · obtain ⟨hnew, hold⟩ := PropsState.mem_newNames.mp hnoted
          obtain ⟨rfl, _⟩ := (PropsState.mem_names_noteAttr hnew).resolve_left hold
          cases hx : (Attr.named span name attrValue).isXlink with
          | true => exact Or.inr ⟨rfl, rfl⟩
          | false =>
            refine Or.inl ⟨property, List.mem_singleton_self _, ?_⟩
            exact congrArg some (propertyNameOf_of_isXlink hx)
        · rw [Attr.addsProps, Bool.eq_false_iff.mpr hdirective]
          exact Bool.noConfusion
        · exact congrArg (PropsBuilder.extend · _) hbuilder

/-- The attributes of an element contribute one piece each, in their order. -/
theorem Attr.gathers_compileAll {ctx : Context} {tag : ResolvedTag} {all attrs : List Attr}
    {state state' : PropsState} {s s' : Session}
    (h : Returns (Attr.compileAll ctx tag all state attrs) s state' s') :
    ∃ contributions, List.Forall₂ (Attr.Contributes ctx.options s'.imports) attrs contributions ∧
      state.Gathers contributions state' := by
  induction attrs generalizing state s with
  | nil =>
    obtain ⟨rfl, rfl⟩ := returns_pure_iff.mp h
    exact ⟨[], .nil, .nil state⟩
  | cons attr attrs ih =>
    obtain ⟨next, t, hattr, hrest⟩ := returns_bind_iff.mp h
    obtain ⟨c, hc, hnext⟩ := Attr.gathers_compile hattr
    obtain ⟨contributions, hcs, hlast⟩ := ih hrest
    have hx : t.imports.Extends s'.imports :=
      (Attr.steps_compileAll steps_makesRequests ctx tag all attrs next).requestsOnly.extends hrest
    exact ⟨c :: contributions, .cons (hc.mono hx) hcs, hnext.cons hlast⟩

/-- What the props argument can be: `null` without properties, the operand of a single spread, an
object literal, the only part, or a call of the merging function on several parts. -/
inductive PropsBuilder.Finished (b : PropsBuilder) (merge : Option String) : Node → Prop where
  | nothing (hf : b.fragments = []) (hp : b.properties = []) : Finished b merge .null
  | operand {dots : Span} {operand : Node} (hf : b.fragments = [])
      (hp : b.properties = [.spread dots operand]) : Finished b merge operand
  | object (hf : b.fragments = []) :
      Finished b merge (.objectOf (Node.foldProperties b.properties))
  | part {part : Node} (hf : b.flush.fragments = [part]) : Finished b merge part
  | merged {name : String} (hf : 1 < b.flush.fragments.length) (hm : merge = some name) :
      Finished b merge (.invoke name b.flush.fragments)

/-- The name that a request for the merging function returns is its name from then on. -/
theorem Imports.mergePropsName?_of_extends {imports imports' : Imports}
    (hx : (imports.get .mergeProps).2.Extends imports') :
    imports'.mergePropsName? = some (imports.get .mergeProps).1 := by
  have hmodule : imports'.runtimeModule = imports.runtimeModule :=
    hx.runtimeModule.trans (extends_serve imports (.runtime .mergeProps)).runtimeModule
  rw [mergePropsName?, hmodule]
  exact hx.find? (find?_request _ _ _ _)

/-- What a finished props argument is; the function that is called on several parts is known as the
merging function from then on. -/
theorem PropsBuilder.finished_finish {b : PropsBuilder} {imports imports' : Imports}
    (hx : (b.finish imports).2.Extends imports') :
    b.Finished imports'.mergePropsName? ((b.finish imports).1.getD .null) := by
  unfold finish at hx ⊢
  split
  · rename_i hempty
    have hf : b.fragments = [] := List.isEmpty_iff.mp hempty
    unfold single
    split
    · rename_i hp
      exact .nothing hf hp
    · rename_i dots operand hp
      exact .operand hf hp
    · exact .object hf
  · rename_i hempty
    rw [if_neg hempty] at hx
    have hne : b.flush.fragments ≠ [] :=
      fragments_flush_ne_nil fun hf => hempty (List.isEmpty_iff.mpr hf)
    cases hflush : b.flush.fragments with
    | nil => exact absurd hflush hne
    | cons first rest =>
      rw [hflush] at hx
      cases rest with
      | nil => exact .part hflush
      | cons second rest =>
        have hm := Imports.mergePropsName?_of_extends hx
        have hlength : 1 < b.flush.fragments.length := by
          rw [hflush]
          exact Nat.one_lt_succ_succ _
        have hmerged := Finished.merged hlength hm
        rw [hflush] at hmerged
        exact hmerged

/-- The names beside a flag are those that were noted. -/
theorem PropsAnalysis.eq_of_emittedNames? {a : PropsAnalysis} {flag : PatchFlag}
    {names : NameSet} (h : a.emittedNames? flag = some names) : names = a.dynamicNames := by
  unfold emittedNames? at h
  split at h
  · cases h
    rfl
  · cases h

/-- How the construction of an element is made of contributions, in a session with the given
imports. -/
structure Node.BuiltFrom (node : Node) (options : Options) (contributions : List Contribution)
    (imports : Imports) : Prop where
  props : ((PropsBuilder.new options.mergeProps).addAll contributions).Finished
    imports.mergePropsName? node.constructionProps
  names : ∀ name ∈ node.constructionNames, ∃ c ∈ contributions, name ∈ c.names
  /-- A name that is not known makes the runtime compare all properties. -/
  unknown : (∃ c ∈ contributions, c.unknown = true) →
    node.constructionFlag = .bail ∨ node.constructionFlag.contains .fullProps = true

/-- What an element compiles to is made of one contribution for each attribute. -/
theorem Jsx.builtFrom_compile {ctx : Context} {span : Span} {opening : Opening}
    {attrs : List Attr} {children : List Child} {closing : Option Closing} {s s' : Session}
    {node : Node}
    (h : Returns ((Jsx.element span opening attrs children closing).compile ctx) s node s') :
    ∃ contributions,
      List.Forall₂ (Attr.Contributes ctx.options s'.imports) attrs contributions ∧
      node.BuiltFrom ctx.options contributions s'.imports := by
  obtain ⟨tag, s₁, _, h⟩ := returns_bind_iff.mp h
  obtain ⟨items, s₂, _, h⟩ := returns_bind_iff.mp h
  obtain ⟨state, s₃, hstate, h⟩ := returns_bind_iff.mp h
  obtain ⟨props, s₄, hprops, h⟩ := returns_bind_iff.mp h
  obtain ⟨contributions, hcs, hgathers⟩ := Attr.gathers_compileAll hstate
  have hfinish := (requestsOnly_finishProps state).extends hprops
  have helement := (requestsOnly_finishElement ctx span tag items props).extends h
  obtain ⟨argument, place, hargs⟩ := args_finishElement ctx span tag items props _ _ _ h
  obtain ⟨_, _, hf, hr⟩ := returns_bind_iff.mp hprops
  obtain ⟨rfl, rfl⟩ := returns_request_iff.mp hf
  obtain ⟨rfl, rfl⟩ := returns_pure_iff.mp hr
  refine ⟨contributions, hcs.imp fun _ _ hc => hc.mono (hfinish.trans helement), ?_, ?_, ?_⟩
  · rw [Node.constructionProps_of_args hargs, hgathers.builder]
    rw [hgathers.builder] at helement
    exact PropsBuilder.finished_finish helement
  · intro name hname
    obtain ⟨names, hnames, hmem⟩ := Node.mem_of_mem_constructionNames hargs hname
    refine (hgathers.names name ?_).resolve_left List.not_mem_nil
    rw [PropsAnalysis.eq_of_emittedNames? hnames] at hmem
    exact hmem
  · rintro ⟨c, hc, hunknown⟩
    rw [Node.constructionFlag_of_args hargs]
    have hkeys : state.analysis.hasDynamicKeys = true := by
      rw [hgathers.keys]
      exact Bool.or_eq_true_iff.mpr (Or.inr (List.any_eq_true.mpr ⟨c, hc, hunknown⟩))
    refine (contains_elementFlag tag items _).imp id fun hbits => ?_
    exact hbits _ (by decide) (PropsAnalysis.contains_fullProps hkeys)

end JsxVNode
