import JsxVNode.Proofs.Compile.Construct
import JsxVNode.Proofs.Props.Coverage

/-!
# Every changing property is covered

The patch flag of an element and the names listed beside it are gathered attribute by
attribute, while its properties are folded, merged and inlined apart from them. An
invariant ties the two together: unless some property name is unknown, all the
properties collected so far have been noted. It holds after every attribute, and so
every property of the emitted call whose value can change is one the flag covers.
-/

namespace JsxVNode

namespace PropsAnalysis

/-- Everything that one analysis has noted another one has noted. -/
structure Le (a b : PropsAnalysis) : Prop where
  keys : a.hasDynamicKeys = true → b.hasDynamicKeys = true
  notes : ∀ {name}, a.Notes name → b.Notes name

/-- A note about one name takes no earlier note back. -/
theorem le_noteDynamic (a : PropsAnalysis) (name : String) (isComponent : Bool) :
    a.Le (a.noteDynamic name isComponent) := by
  unfold noteDynamic
  dsimp only
  split
  · exact ⟨id, id⟩
  · split
    · exact ⟨id, fun h => h.imp (fun hc => ⟨hc.1, rfl⟩) id⟩
    · split
      · exact ⟨id, fun h => h.imp id (Or.imp (fun hs => ⟨hs.1, rfl⟩) id)⟩
      · split
        · exact ⟨id, id⟩
        · refine ⟨id, fun h => h.imp id (Or.imp id fun hm => ?_)⟩
          exact NameSet.mem_toList_insert.mpr (Or.inl hm)

/-- A name that is not handled apart is noted. -/
theorem notes_noteDynamic (a : PropsAnalysis) {name : String} (isComponent : Bool)
    (hr : isReservedName name = false) (hd : isDirectiveName name = false) :
    (a.noteDynamic name isComponent).Notes name := by
  simp only [isReservedName, Bool.or_eq_false_iff, beq_eq_false_iff_ne] at hr
  unfold noteDynamic
  dsimp only
  rw [if_neg hr.1.2]
  split
  · rename_i hc
    exact Or.inl ⟨hc.1, rfl⟩
  · split
    · rename_i hs
      exact Or.inr (Or.inl ⟨hs.1, rfl⟩)
    · rw [if_neg (by simp [hr, hd])]
      exact Or.inr (Or.inr (NameSet.mem_toList_insert.mpr (Or.inr rfl)))

end PropsAnalysis

theorem Node.NotedBy.mono {a b : PropsAnalysis} (hle : a.Le b) {property : Node}
    (h : property.NotedBy a) : property.NotedBy b :=
  fun name hn hr hv => hle.notes (h name hn hr hv)

/-- A part of the props argument is an object literal whose properties have been noted, or a call
of the function that expands a map of handlers. -/
inductive PartNoted (a : PropsAnalysis) (imports : Imports) : Node → Prop where
  | object {properties : List Node} (h : ∀ property ∈ properties, property.NotedBy a) :
      PartNoted a imports (.objectOf properties)
  | handlers {expand : String} (args : List Node)
      (h : imports.find? imports.transformOnModule .default = some expand) :
      PartNoted a imports (.invoke expand args)

/-- A part stays noted as the notes and the imports grow. -/
theorem PartNoted.mono {a b : PropsAnalysis} {imports imports' : Imports} {part : Node}
    (hle : a.Le b) (hx : imports.Extends imports') (h : PartNoted a imports part) :
    PartNoted b imports' part := by
  cases h with
  | object h => exact .object fun property hp => (h property hp).mono hle
  | handlers args h => exact .handlers args (by rw [hx.transformOnModule]; exact hx.find? h)

/-- All that has been collected for the props argument has been noted, and nothing is spread. -/
structure PropsBuilder.Noted (b : PropsBuilder) (a : PropsAnalysis) (imports : Imports) :
    Prop where
  properties : ∀ property ∈ b.properties, property.isSpread = false ∧ property.NotedBy a
  parts : ∀ part ∈ b.fragments, PartNoted a imports part

/-- Closing the object that is being collected folds noted properties into a noted part. -/
theorem PropsBuilder.Noted.flush {b : PropsBuilder} {a : PropsAnalysis} {imports : Imports}
    (h : b.Noted a imports) : b.flush.Noted a imports := by
  unfold PropsBuilder.flush
  split
  · exact h
  · refine ⟨List.forall_mem_nil _, List.forall_mem_append.mpr ⟨h.parts, ?_⟩⟩
    rw [List.forall_mem_singleton]
    exact .object (Node.NotedBy.foldProperties fun property hp => (h.properties property hp).2)

/-- Some property name is unknown, or everything has been noted. -/
def PropsState.Covered (state : PropsState) (imports : Imports) : Prop :=
  state.analysis.hasDynamicKeys = true ∨ state.builder.Noted state.analysis imports

namespace PropsState

variable {state : PropsState} {imports : Imports}

theorem covered_new (options : Options) (imports : Imports) :
    (PropsState.new options).Covered imports :=
  Or.inr ⟨List.forall_mem_nil _, List.forall_mem_nil _⟩

/-- More notes and more imports keep the state covered. -/
theorem Covered.mono (h : state.Covered imports) {a : PropsAnalysis} (hle : state.analysis.Le a)
    {imports' : Imports} (hx : imports.Extends imports') :
    { state with analysis := a }.Covered imports' := by
  refine h.imp hle.keys fun hn => ⟨fun property hp => ?_, fun part hp => ?_⟩
  · exact ⟨(hn.properties property hp).1, (hn.properties property hp).2.mono hle⟩
  · exact (hn.parts part hp).mono hle hx

theorem Covered.extends (h : state.Covered imports) {imports' : Imports}
    (hx : imports.Extends imports') : state.Covered imports' :=
  h.mono ⟨id, id⟩ hx

theorem Covered.extend (h : state.Covered imports) {properties : List Node}
    (hp : ∀ property ∈ properties, property.isSpread = false ∧ property.NotedBy state.analysis) :
    (state.extend properties).Covered imports :=
  h.imp id fun hn => ⟨List.forall_mem_append.mpr ⟨hn.properties, hp⟩, hn.parts⟩

/-- The note that an attribute leaves keeps the state covered. -/
theorem Covered.noteAttr (h : state.Covered imports) (name : String) (value : Option Node)
    (isComponent : Bool) : (state.noteAttr name value isComponent).Covered imports := by
  unfold PropsState.noteAttr
  split
  · exact h.mono (PropsAnalysis.le_noteDynamic _ _ _) (.refl imports)
  · exact h

theorem Covered.noteNames (h : state.Covered imports) (names : List String) :
    (state.noteNames names).Covered imports := by
  have hle : state.analysis.Le (state.noteNames names).analysis :=
    ⟨id, fun hn => hn.imp id (Or.imp id fun hm => NameSet.mem_toList_insertAll.mpr (Or.inl hm))⟩
  exact h.mono hle (.refl imports)

/-- A name that has been listed counts as noted. -/
theorem notes_noteNames (state : PropsState) {names : List String} {name : String}
    (h : name ∈ names) : (state.noteNames names).analysis.Notes name :=
  Or.inr (Or.inr (NameSet.mem_toList_insertAll.mpr (Or.inr h)))

end PropsState

/-- The object of modifiers can never change. -/
theorem isConstant_modifiersObject (modifiers : NameSet) :
    (modifiersObject modifiers).isConstant = true := by
  have hall (names : List String) : Node.allConstantPairs (names.map fun m =>
      .pair (if isPlainName m then .ref m else .str m) (.bool true)) = true := by
    induction names with
    | nil => rfl
    | cons name names ih =>
      rw [List.map_cons, Node.allConstantPairs, ih]
      split <;> rfl
  exact hall modifiers.toList

/-- Some name of a model is unknown, or all properties of models that can change are listed. -/
def ModelProps.Listed (models : ModelProps) : Prop :=
  models.hasDynamicKeys = true ∨ ∀ property ∈ models.props, property.isSpread = false ∧
    ∀ name, property.propertyName? = some name → property.propertyValue.isConstant = false →
      name ∈ models.dynamicNames

/-- The properties of one model that can change are under the names that it lists. -/
theorem ModelProps.listed_ofModel (onComponent : Bool) (name : ModelName)
    (modifiers : Option NameSet) (value target : Node) :
    (ModelProps.ofModel onComponent name modifiers value target).Listed := by
  cases name with
  | dynamic expr => exact Or.inl rfl
  | static text =>
    refine Or.inr fun property hp => ?_
    rcases List.mem_append.mp hp with hv | hh
    · cases onComponent with
      | false => cases hv
      | true =>
        rcases List.mem_cons.mp hv with rfl | hm
        · refine ⟨rfl, fun name hn _ => ?_⟩
          cases hn
          exact List.mem_cons_self
        · split at hm
          · rw [List.mem_singleton.mp hm]
            refine ⟨rfl, fun name _ hc => ?_⟩
            rw [Node.propertyValue, isConstant_modifiersObject] at hc
            cases hc
          · cases hm
    · rw [List.mem_singleton.mp hh]
      refine ⟨rfl, fun name hn _ => ?_⟩
      cases hn
      exact List.mem_append_right _ (List.mem_singleton_self _)

/-- Models that list their names still do when others are added to them. -/
theorem ModelProps.Listed.append {a b : ModelProps} (ha : a.Listed) (hb : b.Listed) :
    (a.append b).Listed := by
  rcases ha with ha | ha
  · exact Or.inl (by rw [ModelProps.append, ha, Bool.true_or])
  · rcases hb with hb | hb
    · exact Or.inl (by rw [ModelProps.append, hb, Bool.or_true])
    · refine Or.inr fun property hp => ?_
      rcases List.mem_append.mp hp with hp | hp
      · exact ⟨(ha property hp).1, fun name hn hv =>
          List.mem_append_left _ ((ha property hp).2 name hn hv)⟩
      · exact ⟨(hb property hp).1, fun name hn hv =>
          List.mem_append_right _ ((hb property hp).2 name hn hv)⟩

/-- What holds of each model and is kept when contributions are put together holds of all models
of a directive. -/
theorem modelPropsOf_induction {P : ModelProps → Prop} {onComponent : Bool} {fault : Fault}
    {values args : List (Option Node)} {modifiers : List NameSet} {models : ModelProps}
    (hempty : P .empty)
    (hmodel : ∀ name modifiers value target, P (.ofModel onComponent name modifiers value target))
    (happend : ∀ {a b : ModelProps}, P a → P b → P (a.append b))
    (h : modelPropsOf onComponent fault values args modifiers = .ok models) : P models := by
  induction values generalizing args modifiers models with
  | nil =>
    cases h
    exact hempty
  | cons value values ih =>
    unfold modelPropsOf at h
    split at h
    · cases h
    · split at h
      · cases h
      · cases hr : modelPropsOf onComponent fault values args.tail modifiers.tail with
        | error f =>
          rw [hr] at h
          cases h
        | ok rest =>
          rw [hr] at h
          cases h
          exact happend (hmodel _ _ _ _) (ih hr)

/-- Whatever the properties of several models are, those that can change are listed. -/
theorem listed_modelPropsOf {onComponent : Bool} {fault : Fault}
    {values args : List (Option Node)} {modifiers : List NameSet} {models : ModelProps}
    (h : modelPropsOf onComponent fault values args modifiers = .ok models) : models.Listed :=
  modelPropsOf_induction (Or.inr (List.forall_mem_nil _)) (ModelProps.listed_ofModel onComponent)
    ModelProps.Listed.append h

namespace PropsState

variable {state : PropsState} {imports : Imports}

/-- The properties and the names of models are added together, so the state stays covered. -/
theorem Covered.addModels (h : state.Covered imports) {models : ModelProps}
    (hm : models.Listed) : (state.addModels models).Covered imports := by
  rcases hm with hk | hm
  · exact Or.inl (by simp [PropsState.addModels, hk])
  · have hx : ((state.noteNames models.dynamicNames).extend models.props).Covered imports := by
      refine (h.noteNames models.dynamicNames).extend fun property hp => ⟨(hm property hp).1, ?_⟩
      intro name hn _ hv
      exact state.notes_noteNames ((hm property hp).2 name hn hv)
    have hle : (state.noteNames models.dynamicNames).analysis.Le
        (state.addModels models).analysis :=
      ⟨fun hk => Bool.or_eq_true_iff.mpr (Or.inl hk), id⟩
    exact hx.mono hle (.refl imports)

/-- The content property of a directive is listed when it is added. -/
theorem Covered.addParsed (h : state.Covered imports) (parsed : ParsedDirective)
    (value : Option Node) : (state.addParsed parsed value).Covered imports := by
  unfold PropsState.addParsed
  split
  · exact h
  · split
    · rename_i property _
      refine (h.noteNames [property]).extend ?_
      rw [List.forall_mem_singleton]
      refine ⟨rfl, fun name hn _ _ => ?_⟩
      cases hn
      exact state.notes_noteNames (List.mem_singleton_self property)
    · exact h

end PropsState

/-- Whether an attribute name is `xlink` and then a capital letter. The property such an attribute
sets has another name than the attribute. -/
def Attr.isXlink : Attr → Bool
  | .named _ name _ =>
    match name.spelling.toList with
    | 'x' :: 'l' :: 'i' :: 'n' :: 'k' :: c :: _ => c.isUpper
    | _ => false
  | .spread .. => false

/-- Only names that begin with `xlink` and a capital letter differ from the name of their
property. -/
theorem propertyNameOf_of_isXlink {span : Span} {name : AttrName} {value : AttrValue}
    (h : (Attr.named span name value).isXlink = false) :
    propertyNameOf name.spelling = name.spelling := by
  unfold Attr.isXlink at h
  unfold propertyNameOf
  dsimp only at h
  split
  · rename_i c rest heq
    rw [heq] at h
    have hc : c.isUpper = false := h
    rw [if_neg (Bool.eq_false_iff.mp hc)]
  · rfl

/-- An attribute that is a plain property has been noted if its value can change. -/
theorem PropsState.notedBy_noteAttr (state : PropsState) {name : String} (value : Option Node)
    (isComponent : Bool) (hd : isDirectiveName name = false) :
    (Node.pair (.str name) (value.getD (.bool true))).NotedBy
      (state.noteAttr name value isComponent).analysis := by
  intro other hn hr hv
  cases hn
  cases value with
  | none => cases hv
  | some node =>
    have hany : (name == "ref" || (some node).any (!·.isConstant)) = true := by
      rw [Option.any_some, show node.isConstant = false from hv, Bool.not_false, Bool.or_true]
    rw [PropsState.noteAttr, if_pos hany]
    exact PropsAnalysis.notes_noteDynamic _ _ hr hd

namespace Compile

/-- A directive keeps the state covered, whether it contributes slots, models or a tuple. -/
theorem covered_applyDirective {span : Span} {name : AttrName} {attrValue : AttrValue}
    {value : Option Node} {tag : ResolvedTag} {attrs : List Attr} {state state' : PropsState}
    {s s' : Session} (hs : state.Covered s.imports)
    (h : Returns (applyDirective span name attrValue value tag attrs state) s state' s') :
    state'.Covered s'.imports := by
  rw [applyDirective_eq] at h
  obtain ⟨parsed, t, hp, hr⟩ := returns_bind_iff.mp h
  have ht := hs.extends ((requestsOnly_parseDirective _ _ _ _ _ _).extends hp)
  split at hr
  · obtain ⟨rfl, rfl⟩ := returns_pure_iff.mp hr
    exact ht
  · split at hr
    · obtain ⟨models, t', hm, hr⟩ := returns_bind_iff.mp hr
      obtain ⟨hok, rfl⟩ := returns_ofExcept_iff.mp hm
      obtain ⟨rfl, rfl⟩ := returns_pure_iff.mp hr
      exact (ht.addParsed parsed value).addModels (listed_modelPropsOf hok)
    · obtain ⟨rfl, rfl⟩ := returns_pure_iff.mp hr
      exact ht.addParsed parsed value

/-- An attribute keeps the state covered unless its name is rewritten. -/
theorem covered_applyAttr {ctx : Context} {span : Span} {name : AttrName} {attrValue : AttrValue}
    {value : Option Node} {tag : ResolvedTag} {attrs : List Attr} {state state' : PropsState}
    {s s' : Session} (hx : (Attr.named span name attrValue).isXlink = false)
    (hs : state.Covered s.imports)
    (h : Returns (applyAttr ctx span name attrValue value tag attrs state) s state' s') :
    state'.Covered s'.imports := by
  have hn := hs.noteAttr name.spelling value tag.isComponent
  rw [applyAttr_eq] at h
  dsimp only at h
  split at h
  · obtain ⟨expand, t, he, hr⟩ := returns_bind_iff.mp h
    obtain ⟨rfl, rfl⟩ := returns_pure_iff.mp hr
    have hext := hn.extends (requestsOnly_transformOn.extends he)
    obtain ⟨rfl, rfl⟩ := returns_request_iff.mp he
    -- The properties so far become a part of their own, and the call the part after it.
    refine hext.imp id fun hb => ⟨hb.flush.properties, ?_⟩
    refine List.forall_mem_append.mpr ⟨hb.flush.parts, List.forall_mem_singleton.mpr ?_⟩
    exact .handlers _ (Imports.find?_transformOn s.imports)
  · split at h
    · exact covered_applyDirective hn h
    · rename_i hd
      obtain ⟨rfl, rfl⟩ := returns_pure_iff.mp h
      refine hn.extend (List.forall_mem_singleton.mpr ⟨rfl, ?_⟩)
      rw [propertyNameOf_of_isXlink hx]
      exact state.notedBy_noteAttr value tag.isComponent (Bool.eq_false_iff.mpr hd)

end Compile

open Compile

/-- The invariant holds after an attribute if it held before it. -/
theorem Attr.covered_compile {ctx : Context} {tag : ResolvedTag} {all : List Attr} {attr : Attr}
    (hx : attr.isXlink = false) {state state' : PropsState} {s s' : Session}
    (hs : state.Covered s.imports) (h : Returns (attr.compile ctx tag all state) s state' s') :
    state'.Covered s'.imports := by
  cases attr with
  | spread dots operand =>
    obtain ⟨rfl, rfl⟩ := returns_pure_iff.mp h
    exact Or.inl rfl
  | named span name attrValue =>
    obtain ⟨value, t, hv, hr⟩ := returns_bind_iff.mp h
    have ht := hs.extends ((AttrValue.requestsOnly_compile ctx attrValue).extends hv)
    exact covered_applyAttr hx ht hr

/-- The invariant holds after all attributes. -/
theorem Attr.covered_compileAll {ctx : Context} {tag : ResolvedTag} {all attrs : List Attr}
    (hx : ∀ attr ∈ attrs, attr.isXlink = false) {state state' : PropsState} {s s' : Session}
    (hs : state.Covered s.imports)
    (h : Returns (Attr.compileAll ctx tag all state attrs) s state' s') :
    state'.Covered s'.imports := by
  induction attrs generalizing state s with
  | nil =>
    obtain ⟨rfl, rfl⟩ := returns_pure_iff.mp h
    exact hs
  | cons attr attrs ih =>
    rw [List.forall_mem_cons] at hx
    obtain ⟨next, t, ha, hr⟩ := returns_bind_iff.mp h
    exact ih hx.2 (Attr.covered_compile hx.1 hs ha) hr

/-- The local name of the function that merges props, if it was requested. -/
def Imports.mergePropsName? (imports : Imports) : Option String :=
  imports.find? imports.runtimeModule (.named Export.mergeProps.name)

/-- The properties of an object among the noted parts have been noted. -/
theorem PartNoted.objectProperties {a : PropsAnalysis} {imports : Imports} {part : Node}
    (h : PartNoted a imports part) {properties : List Node}
    (hp : part.objectProperties? = some properties) :
    ∀ property ∈ properties, property.NotedBy a := by
  cases h with
  | object h =>
    cases hp
    exact h
  | handlers args h => cases hp

/-- A lone part is no call of the function that merges props. -/
theorem PartNoted.propsObjects {a : PropsAnalysis} {imports : Imports} {part : Node}
    (h : PartNoted a imports part) (hw : imports.WellFormed) :
    ∀ properties ∈ part.propsObjects imports.mergePropsName?,
      ∀ property ∈ properties, property.NotedBy a := by
  cases h with
  | object h => exact List.forall_mem_singleton.mpr h
  | @handlers expand args h =>
    have hne : imports.mergePropsName? ≠ some expand := by
      intro hm
      cases (hw.find?_injective h hm).2
    rw [Node.propsObjects_invoke, if_neg hne]
    exact List.forall_mem_nil _

/-- The object literals of the finished props argument hold properties that have been noted. -/
theorem PropsBuilder.Noted.finish {b : PropsBuilder} {a : PropsAnalysis} {imports : Imports}
    (h : b.Noted a imports) {imports' : Imports} (hx : imports.Extends imports')
    (hw : imports'.WellFormed) :
    ∀ properties ∈ ((b.finish imports).1.getD .null).propsObjects imports'.mergePropsName?,
      ∀ property ∈ properties, property.NotedBy a := by
  unfold PropsBuilder.finish
  split
  · unfold PropsBuilder.single
    split
    · exact List.forall_mem_nil _
    · rename_i dots operand hp
      have hs := (h.properties (.spread dots operand) (by rw [hp]; exact List.mem_cons_self)).1
      cases hs
    · exact List.forall_mem_singleton.mpr
        (Node.NotedBy.foldProperties fun property hp => (h.properties property hp).2)
  · have hparts := h.flush.parts
    split
    · rename_i part hp
      rw [hp, List.forall_mem_singleton] at hparts
      exact (hparts.mono ⟨id, id⟩ hx).propsObjects hw
    · rw [Option.getD_some, Node.propsObjects_invoke]
      split
      · intro properties hm
        obtain ⟨part, hp, ho⟩ := List.mem_filterMap.mp hm
        exact (hparts part hp).objectProperties ho
      · exact List.forall_mem_nil _

namespace Compile

/-- A construction has the given arguments. -/
theorem args_construct (ctx : Context) (tag : Node) (props children : Option Node)
    (flag : PatchFlag) (names : Option NameSet) (span : Span) :
    Yields (construct ctx tag props children flag names span) fun node =>
      ∃ factory place, node = .invoke factory (tag :: props.getD .null :: children.getD .null ::
        Node.flagArgs flag place names) := by
  intro s node s' h
  rw [Returns, outcome_construct] at h
  cases h
  exact ⟨_, _, rfl⟩

/-- The arguments of the construction of an element, with or without runtime directives. The
children argument is made before the construction. -/
theorem returns_finishElement {ctx : Context} {span : Span} {tag : ResolvedTag}
    {children : Children} {props : ElementProps} {s s' : Session} {node : Node}
    (h : Returns (finishElement ctx span tag children props) s node s') :
    ∃ argument t place, Returns (vnodeChildren ctx tag children.items props.slots) s argument t ∧
      t.imports.LeadsTo s'.imports ∧
      node.constructionArgs = tag.expr :: props.props.getD .null :: argument.getD .null ::
        Node.flagArgs (elementFlag tag children props) place
          (props.analysis.emittedNames? (elementFlag tag children props)) := by
  obtain ⟨argument, t, _, hargument, hlast, _, _, happlies⟩ := exists_of_finishElement h
  exact ⟨argument, t, _, hargument, hlast, happlies.constructionArgs⟩

/-- The arguments of an element's construction are its tag, its props, its children, and what its
flag calls for. -/
theorem args_finishElement (ctx : Context) (span : Span) (tag : ResolvedTag) (children : Children)
    (props : ElementProps) :
    Yields (finishElement ctx span tag children props) fun node =>
      ∃ argument place, node.constructionArgs = tag.expr :: props.props.getD .null :: argument ::
        Node.flagArgs (elementFlag tag children props) place
          (props.analysis.emittedNames? (elementFlag tag children props)) := by
  intro s node s' h
  obtain ⟨_, _, place, _, _, hargs⟩ := returns_finishElement h
  exact ⟨_, place, hargs⟩

end Compile

/-- Every property of an element that can change is covered by its patch flag. In a session that
requests have led to, let an element without `xlink` names compile to a call. Then for every
property of the object literals in its props argument that has a static name other than `key`,
`ref` and `on` and a value that is not constant, the emitted flag with the emitted names makes the
runtime compare the property. -/
theorem Jsx.compile_covers_changing_props (ctx : Context) (span : Span) (opening : Opening)
    (attrs : List Attr) (children : List Child) (closing : Option Closing)
    (requests : List Imports.Request) (s s' : Session) (node : Node)
    (hs : s.imports = (Imports.new ctx.options ctx.bindings).serveAll requests)
    (hx : ∀ attr ∈ attrs, attr.isXlink = false)
    (h : Returns ((Jsx.element span opening attrs children closing).compile ctx) s node s') :
    ∀ properties ∈ node.constructionProps.propsObjects s'.imports.mergePropsName?,
      ∀ property ∈ properties, ∀ name, property.propertyName? = some name →
        isReservedName name = false → property.propertyValue.isConstant = false →
        node.constructionFlag.Covers node.constructionNames name := by
  -- Local names are distinct in the end, which tells a merging call from one that expands handlers.
  have hw : s'.imports.WellFormed := by
    obtain ⟨more, hm⟩ := (Jsx.requestsOnly_compile ctx _).exists_requests h
    rw [hm, hs]
    exact ((Imports.wellFormed_new _ _).serveAll requests).serveAll more
  obtain ⟨tag, s₁, _, h⟩ := returns_bind_iff.mp h
  obtain ⟨items, s₂, _, h⟩ := returns_bind_iff.mp h
  obtain ⟨state, s₃, hstate, h⟩ := returns_bind_iff.mp h
  obtain ⟨props, s₄, hprops, h⟩ := returns_bind_iff.mp h
  have hcov : state.Covered s₃.imports :=
    Attr.covered_compileAll hx (PropsState.covered_new _ _) hstate
  have hext : s₃.imports.Extends s'.imports :=
    ((requestsOnly_finishProps state).extends hprops).trans
      ((requestsOnly_finishElement ctx span tag items props).extends h)
  obtain ⟨argument, place, hargs⟩ := args_finishElement ctx span tag items props _ _ _ h
  have hp : props = ⟨(state.builder.finish s₃.imports).1, state.directives, state.slots,
      state.analysis⟩ := by
    obtain ⟨_, _, hf, hr⟩ := returns_bind_iff.mp hprops
    obtain ⟨rfl, rfl⟩ := returns_request_iff.mp hf
    exact (returns_pure_iff.mp hr).1.symm
  subst hp
  intro properties hm property hmem name hn hr hv
  rw [Node.constructionProps_of_args hargs] at hm
  rw [Node.constructionFlag_of_args hargs]
  refine (covers_elementFlag ?_).of_names_eq (Node.constructionNames_of_args hargs)
  refine hcov.imp id fun hnoted => ?_
  exact hnoted.finish hext hw properties hm property hmem name hn hr hv

/-- What the compilation of the sample element reads. -/
def Context.sample : Context := ⟨.default, .none, false⟩

/-- The attributes of the element `<div class="a" class={c} id={x}/>`. -/
def Attr.samples : List Attr :=
  [.named .dummy (.plain (.generated "class")) (.lit (.generated (.str "a"))),
    .named .dummy (.plain (.generated "class")) (.container .dummy (.ref "c")),
    .named .dummy (.plain (.generated "id")) (.container .dummy (.ref "x"))]

/-- The properties of the sample element. -/
def Node.sampleProperties : List Node :=
  [.pair (.str "class") (.arrayOf [.str "a", .ref "c"]), .pair (.str "id") (.ref "x")]

/-- The folded class and the identifier of the sample can change, and the flag covers both. -/
theorem Jsx.sample_compile_covers_changing_props :
    let node : Node := .invoke "_createVNode" [.str "div", .objectOf Node.sampleProperties, .null,
      .int 10 .dummy, .arrayOf [.str "id"]]
    (∃ s', Returns ((Jsx.element .dummy ⟨.dummy, true, .path (.ident (.generated "div"))⟩
        Attr.samples [] none).compile .sample) (.new .sample) node s') ∧
      node.constructionFlag.Covers node.constructionNames "class" ∧
      node.constructionFlag.Covers node.constructionNames "id" := by
  intro node
  have hr : Returns ((Jsx.element .dummy ⟨.dummy, true, .path (.ident (.generated "div"))⟩
      Attr.samples [] none).compile .sample) (.new .sample) node
      ⟨(Imports.new .default .none).serve (.runtime .createVNode), []⟩ := rfl
  have hcovers := Jsx.compile_covers_changing_props _ _ _ _ _ _ [] _ _ _ rfl (by decide) hr
    Node.sampleProperties (List.mem_singleton_self _)
  refine ⟨⟨_, hr⟩, ?_, ?_⟩
  · exact hcovers _ List.mem_cons_self "class" rfl (by decide) rfl
  · exact hcovers _ (List.mem_cons_of_mem _ List.mem_cons_self) "id" rfl (by decide) rfl

end JsxVNode
