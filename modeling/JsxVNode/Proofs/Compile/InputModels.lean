import JsxVNode.Proofs.Compile.Tuples
import JsxVNode.Proofs.Directive.Models

/-!
# Models of inputs

The directive of the runtime that implements a model on an element depends on the
`type` of the element. It is chosen by the first attribute `type` as it is written,
while the property `type` goes another way: its text is flattened, and the last of
several values is kept. Two invariants say what comes out on either way after any
number of attributes, and they agree if all the attributes `type` call for the same
directive and none of them is written on more than one line.
-/

namespace JsxVNode

/-- The value of an attribute `type`. -/
def Attr.typeValue? : Attr → Option AttrValue
  | .named _ (.plain name) value => if name.name = "type" then some value else none
  | _ => none

/-- The values of the attributes `type`, in order. -/
def typeValues (attrs : List Attr) : List AttrValue := attrs.filterMap Attr.typeValue?

/-- The first attribute `type` is the one that counts. -/
theorem inputType?_eq (attrs : List Attr) :
    inputType? attrs = (typeValues attrs).head?.map .ofValue := by
  induction attrs with
  | nil => rfl
  | cons attr attrs ih =>
    match attr with
    | .named span (.plain name) value =>
      rw [inputType?, typeValues, List.filterMap_cons, Attr.typeValue?]
      split
      · rfl
      · exact ih
    | .named span (.qualified name) value => exact ih
    | .spread dots operand => exact ih

/-- The directive of the runtime that implements a model on an input of a known type. -/
def Export.ofType (type : String) : Export :=
  if type = "checkbox" then .vModelCheckbox
  else if type = "radio" then .vModelRadio
  else .vModelText

/-- The directive that an attribute `type` with the given value calls for. -/
def AttrValue.modelExport (value : AttrValue) : Export :=
  match InputType.ofValue value with
  | .static type => .ofType type
  | .dynamic => .vModelDynamic

/-- On any tag other than `select` and `textarea` the first attribute `type` decides, and text is
the default. -/
theorem modelExport_eq {tag : ResolvedTag} (attrs : List Attr) (hselect : tag.name ≠ some "select")
    (htextarea : tag.name ≠ some "textarea") :
    modelExport tag attrs = ((typeValues attrs).head?.map (·.modelExport)).getD .vModelText := by
  rw [modelExport, if_neg hselect, if_neg htextarea, inputType?_eq]
  cases (typeValues attrs).head? with
  | none => rfl
  | some value =>
    rw [Option.map_some, Option.map_some, Option.getD_some, AttrValue.modelExport]
    cases InputType.ofValue value <;> rfl

/-- The text that the value of an attribute is emitted as, if it is a string. -/
def AttrValue.emittedText? : AttrValue → Option String
  | .lit value => value.string?.map Text.flatten
  | .container _ body => body.string?
  | _ => none

/-- Whether the value of an attribute has no line break in quotes. -/
def AttrValue.isUnbroken : AttrValue → Bool
  | .lit value => value.string?.all fun text =>
      !text.toList.contains '\n' && !text.toList.contains '\r'
  | _ => true

/-- Flattening a text on one line does not change the directive it calls for. -/
theorem Export.ofType_flatten {text : String} (hlf : '\n' ∉ text.toList)
    (hcr : '\r' ∉ text.toList) : ofType (Text.flatten text) = ofType text := by
  have hcheckbox : Text.flatten text = "checkbox" ↔ text = "checkbox" :=
    Text.flatten_eq_iff_of_unbroken hlf hcr (by decide) (by decide)
  have hradio : Text.flatten text = "radio" ↔ text = "radio" :=
    Text.flatten_eq_iff_of_unbroken hlf hcr (by decide) (by decide)
  simp only [ofType, hcheckbox, hradio]

/-- A value on one line calls for the directive of the text that it is emitted as. -/
theorem AttrValue.modelExport_of_emittedText? {value : AttrValue} {text : String}
    (h : value.emittedText? = some text) (hunbroken : value.isUnbroken = true) :
    value.modelExport = .ofType text := by
  cases value with
  | lit value =>
    obtain ⟨raw, hraw, rfl⟩ := Option.map_eq_some_iff.mp h
    rw [isUnbroken, hraw] at hunbroken
    simp only [Option.all_some, Bool.and_eq_true, Bool.not_eq_true', List.contains_eq_mem,
      decide_eq_false_iff_not] at hunbroken
    rw [AttrValue.modelExport, InputType.ofValue, hraw,
      Export.ofType_flatten hunbroken.1 hunbroken.2]
    rfl
  | container span body =>
    have hbody : body.string? = some text := h
    rw [AttrValue.modelExport, InputType.ofValue, hbody]
    rfl
  | bare => cases h
  | empty span inner => cases h
  | jsx markup => cases h

/-- If all attributes `type` call for the same directive, it is the one for the text that any of
them is emitted as. -/
theorem modelExport_of_emittedText? {tag : ResolvedTag} {attrs : List Attr} {value : AttrValue}
    {text : String} (hselect : tag.name ≠ some "select") (htextarea : tag.name ≠ some "textarea")
    (hsame : ∀ value ∈ typeValues attrs, ∀ other ∈ typeValues attrs,
      value.modelExport = other.modelExport)
    (hvalue : value ∈ typeValues attrs) (htext : value.emittedText? = some text)
    (hunbroken : value.isUnbroken = true) : modelExport tag attrs = .ofType text := by
  rw [modelExport_eq attrs hselect htextarea]
  cases hfirst : (typeValues attrs).head? with
  | none =>
    rw [List.head?_eq_none_iff.mp hfirst] at hvalue
    cases hvalue
  | some first =>
    have hfirst' := hsame first (List.mem_of_mem_head? hfirst) value hvalue
    exact hfirst'.trans (AttrValue.modelExport_of_emittedText? htext hunbroken)

namespace Compile

/-- The text of a compiled value is the one that it is emitted as. -/
theorem string?_attrValue (ctx : Context) (value : AttrValue) :
    Yields (value.compile ctx) fun compiled =>
      compiled.bind Node.string? = value.emittedText? := by
  cases value with
  | bare => exact yields_pure rfl
  | lit value =>
    refine yields_pure ?_
    rw [AttrValue.emittedText?]
    cases hs : value.string? with
    | none => exact hs
    | some text => rfl
  | container span body => exact yields_pure rfl
  | empty span inner => exact yields_pure rfl
  | jsx markup =>
    have hcall : Yields (markup.compile ctx) fun node => node.string? = none :=
      compile_yields_invoke (fun _ _ => rfl) ctx markup
    exact hcall.bind fun node hnode => yields_pure hnode

end Compile

/-!
# The emitted type

The property that an element ends up with need not be the attribute that the directive
was chosen by. These lemmas follow the attributes `type` through the props argument.
-/

/-- A property `type` whose value is a string has the text of one of the given values. -/
def Node.TypedBy (values : List AttrValue) (property : Node) : Prop :=
  property.propertyName? = some "type" → ∀ text, property.propertyValue.string? = some text →
    ∃ value ∈ values, value.emittedText? = some text

/-- A property that is neither spread nor a `type`. -/
def Node.SetsNoType (property : Node) : Prop :=
  property.isSpread = false ∧ property.propertyName? ≠ some "type"

/-- A property of another name says nothing about the type. -/
theorem Node.SetsNoType.typedBy {property : Node} (h : property.SetsNoType)
    (values : List AttrValue) : property.TypedBy values :=
  fun htype => absurd htype h.2

/-- The last of several values is kept. -/
theorem Node.keptByFold_typedBy (values : List AttrValue) : KeptByFold (TypedBy values) := by
  intro name earlier later hearlier hlater _ htyped htype text htext
  rw [propertyName?_foldProperty hearlier] at htype
  cases htype
  exact htyped hlater text htext

/-- All that has been collected for the props argument is typed by the given values, apart from the
calls that maps of handlers are expanded by, and nothing is spread. -/
structure PropsBuilder.TypedBy (b : PropsBuilder) (values : List AttrValue) (imports : Imports) :
    Prop where
  properties : ∀ property ∈ b.properties, property.isSpread = false ∧ property.TypedBy values
  parts : ∀ part ∈ b.fragments, part.IsExpansion imports ∨
    ∃ properties, part = .objectOf properties ∧ ∀ property ∈ properties, property.TypedBy values

namespace PropsBuilder

variable {b : PropsBuilder} {values : List AttrValue} {imports : Imports}

theorem extend_nil (b : PropsBuilder) : b.extend [] = b := by
  rw [extend, List.append_nil]

theorem extend_extend (b : PropsBuilder) (properties others : List Node) :
    (b.extend properties).extend others = b.extend (properties ++ others) := by
  simp only [extend, List.append_assoc]

theorem typedBy_new (mergeProps : Bool) (values : List AttrValue) (imports : Imports) :
    (new mergeProps).TypedBy values imports :=
  ⟨List.forall_mem_nil _, List.forall_mem_nil _⟩

theorem TypedBy.extends (h : b.TypedBy values imports) {imports' : Imports}
    (hx : imports.Extends imports') : b.TypedBy values imports' := by
  refine ⟨h.properties, fun part hpart => (h.parts part hpart).imp ?_ id⟩
  rintro ⟨expand, arg, hexpand, rfl⟩
  refine ⟨expand, arg, ?_, rfl⟩
  rw [hx.transformOnModule]
  exact hx.find? hexpand

/-- Properties typed by the same values can be added. -/
theorem TypedBy.extend (h : b.TypedBy values imports) {properties : List Node}
    (hp : ∀ property ∈ properties, property.isSpread = false ∧ property.TypedBy values) :
    (b.extend properties).TypedBy values imports :=
  ⟨List.forall_mem_append.mpr ⟨h.properties, hp⟩, h.parts⟩

/-- The properties since the last part satisfy what a fold keeps. -/
theorem TypedBy.foldProperties (h : b.TypedBy values imports) :
    ∀ property ∈ Node.foldProperties b.properties, property.TypedBy values :=
  (Node.keptByFold_typedBy values).foldProperties fun property hp => (h.properties property hp).2

/-- Folding keeps the last of several types, so closing an object keeps it typed. -/
theorem TypedBy.flush (h : b.TypedBy values imports) : b.flush.TypedBy values imports := by
  unfold PropsBuilder.flush
  split
  · exact h
  · refine ⟨List.forall_mem_nil _, List.forall_mem_append.mpr ⟨h.parts, ?_⟩⟩
    exact List.forall_mem_singleton.mpr (Or.inr ⟨_, rfl, h.foldProperties⟩)

/-- The call that expands a map of handlers is excepted, so it can be pushed. -/
theorem TypedBy.pushExpansion (h : b.TypedBy values imports) {call : Node}
    (hcall : call.IsExpansion imports) : (b.pushFragment call).TypedBy values imports :=
  ⟨h.flush.properties, List.forall_mem_append.mpr
    ⟨h.flush.parts, List.forall_mem_singleton.mpr (Or.inl hcall)⟩⟩

/-- The object literals of the finished props argument hold properties that are typed. -/
theorem Finished.typedBy {props : Node} (h : b.Finished imports.mergePropsName? props)
    (hw : imports.WellFormed) (hb : b.TypedBy values imports) :
    ∀ properties ∈ props.propsObjects imports.mergePropsName?,
      ∀ property ∈ properties, property.TypedBy values := by
  cases h with
  | nothing hf hp => exact List.forall_mem_nil _
  | operand hf hp =>
    have hspread := (hb.properties _ (by rw [hp]; exact List.mem_singleton_self _)).1
    cases hspread
  | object hf => exact List.forall_mem_singleton.mpr hb.foldProperties
  | part hf =>
    rcases hb.flush.parts props (by rw [hf]; exact List.mem_singleton_self _) with
      ⟨expand, arg, hexpand, rfl⟩ | ⟨properties, rfl, htyped⟩
    · have hne : imports.mergePropsName? ≠ some expand := by
        intro hmerge
        cases (hw.find?_injective hexpand hmerge).2
      rw [Node.propsObjects_invoke, if_neg hne]
      exact List.forall_mem_nil _
    · exact List.forall_mem_singleton.mpr htyped
  | merged hf hm =>
    rw [Node.propsObjects_invoke, if_pos hm]
    intro properties hmem
    obtain ⟨part, hpart, hobject⟩ := List.mem_filterMap.mp hmem
    rcases hb.flush.parts part hpart with ⟨expand, arg, _, rfl⟩ | ⟨others, rfl, htyped⟩
    · cases hobject
    · cases hobject
      exact htyped

end PropsBuilder

/-- The handler of a model is never under the name `type`. -/
theorem Model.setsNoType_handlerProperty (m : Model) : m.handlerProperty.SetsNoType := by
  unfold handlerProperty
  cases m.name with
  | static name =>
    refine ⟨rfl, fun h => ?_⟩
    have hname : "onUpdate:" ++ name = "type" := Option.some.inj h
    have hhead := congrArg (·.toList.head?) hname
    simp at hhead
  | dynamic name => exact ⟨rfl, nofun⟩

/-- The only property that models add beside a runtime directive is the handler. -/
theorem setsNoType_modelPropsOf {fault : Fault} {values args : List (Option Node)}
    {modifiers : List NameSet} {models : ModelProps}
    (h : modelPropsOf false fault values args modifiers = .ok models) :
    ∀ property ∈ models.props, property.SetsNoType := by
  obtain ⟨built, _, _, rfl⟩ := exists_models_of_modelPropsOf h
  intro property hproperty
  obtain ⟨m, _, hm⟩ := List.mem_flatMap.mp hproperty
  rw [List.mem_singleton.mp hm]
  exact m.setsNoType_handlerProperty

/-- A directive for content sets one property, and it is no `type`. -/
theorem PropsState.builder_addParsed (state : PropsState) (parsed : ParsedDirective)
    (value : Option Node) :
    ∃ properties, (state.addParsed parsed value).builder = state.builder.extend properties ∧
      ∀ property ∈ properties, property.SetsNoType := by
  have hnone := state.builder.extend_nil.symm
  unfold addParsed
  split
  · exact ⟨[], hnone, List.forall_mem_nil _⟩
  · split
    · rename_i property hproperty
      have hne : contentProperty? parsed.name ≠ some "type" := by
        unfold contentProperty?
        split
        · decide
        · split <;> decide
      exact ⟨_, rfl, List.forall_mem_singleton.mpr ⟨rfl, fun htype => hne (hproperty.trans htype)⟩⟩
    · exact ⟨[], hnone, List.forall_mem_nil _⟩

namespace Compile

/-- On an element of the platform every model is applied by the runtime. -/
theorem tuple_parseDirective {span : Span} {name : AttrName} {attrValue : AttrValue}
    {value : Option Node} {tag : ResolvedTag} {attrs : List Attr}
    (hcomponent : tag.isComponent = false) :
    Yields (parseDirective span name attrValue value tag attrs) fun parsed =>
      parsed.isModel = true → parsed.tuple.isNone = false := by
  intro s parsed s' hr hmodel
  have hreads := reads_parseDirective _ _ _ _ _ _ _ _ _ hr
  have hsome := hreads.tuple
  unfold ParsedDirective.isModel at hmodel
  rw [hreads.name] at hmodel
  rcases Bool.or_eq_true_iff.mp hmodel with hname | hname
  · rw [eq_of_beq hname, hcomponent] at hsome
    rw [← Option.not_isSome, hsome]
    rfl
  · refine absurd ?_ (not_fails_of_returns hr)
    exact fails_parseDirective_iff.mpr (Or.inr (Or.inl ⟨eq_of_beq hname, hcomponent⟩))

/-- On an element of the platform no directive sets a property `type`. -/
theorem builder_applyDirective {span : Span} {name : AttrName} {attrValue : AttrValue}
    {value : Option Node} {tag : ResolvedTag} {attrs : List Attr} {state : PropsState}
    (hcomponent : tag.isComponent = false) :
    Yields (applyDirective span name attrValue value tag attrs state) fun state' =>
      ∃ properties, state'.builder = state.builder.extend properties ∧
        ∀ property ∈ properties, property.SetsNoType := by
  rw [applyDirective_eq]
  refine (tuple_parseDirective hcomponent).bind fun parsed htuple => ?_
  obtain ⟨properties, hbuilder, hproperties⟩ := state.builder_addParsed parsed value
  split
  · exact yields_pure ⟨[], state.builder.extend_nil.symm, List.forall_mem_nil _⟩
  · split
    · rename_i hmodel
      refine Yields.bind (yields_ofExcept fun models hmodels => hmodels) fun models hmodels => ?_
      rw [ParsedDirective.models, htuple hmodel] at hmodels
      refine yields_pure ⟨properties ++ models.props, ?_,
        List.forall_mem_append.mpr ⟨hproperties, setsNoType_modelPropsOf hmodels⟩⟩
      change (state.addParsed parsed value).builder.extend models.props = _
      rw [hbuilder, PropsBuilder.extend_extend]
    · exact yields_pure ⟨properties, hbuilder, hproperties⟩

end Compile

/-- Only the name `type` gives the property `type`. -/
theorem eq_of_propertyNameOf_eq {name : String} (h : propertyNameOf name = "type") :
    name = "type" := by
  unfold propertyNameOf at h
  split at h
  · split at h
    · have hhead := congrArg (·.toList.head?) h
      simp at hhead
    · exact h
  · exact h

/-- A name with a colon is not `type`. -/
theorem AttrName.exists_plain_of_spelling {name : AttrName} (h : name.spelling = "type") :
    ∃ ident : Ident, name = .plain ident ∧ ident.name = "type" := by
  cases name with
  | plain ident => exact ⟨ident, rfl, h⟩
  | qualified name =>
    have hcolon : ':' ∈ (name.space.name ++ ":" ++ name.name.name).toList := by simp
    rw [show name.space.name ++ ":" ++ name.name.name = "type" from h] at hcolon
    exact absurd hcolon (by decide)

open Compile

/-- The type of an element of the platform comes from one of the attributes `type`. -/
theorem Attr.typedBy_compile {ctx : Context} {tag : ResolvedTag} {all : List Attr} {attr : Attr}
    (hattr : attr ∈ all) (hspread : attr.isSpread = false) (hcomponent : tag.isComponent = false)
    {state state' : PropsState} {s s' : Session}
    (hs : state.builder.TypedBy (typeValues all) s.imports)
    (h : Returns (attr.compile ctx tag all state) s state' s') :
    state'.builder.TypedBy (typeValues all) s'.imports := by
  have hx := (Attr.steps_compile steps_makesRequests ctx tag all attr state).requestsOnly.extends h
  cases attr with
  | spread dots operand => cases hspread
  | named span name attrValue =>
    obtain ⟨value, t, hvalue, h⟩ := returns_bind_iff.mp h
    have htext := string?_attrValue ctx attrValue _ _ _ hvalue
    have hbuilder := state.builder_noteAttr name.spelling value tag.isComponent
    rw [applyAttr_eq] at h
    dsimp only at h
    split at h
    · obtain ⟨expand, u, hexpand, h⟩ := returns_bind_iff.mp h
      obtain ⟨rfl, rfl⟩ := returns_pure_iff.mp h
      obtain ⟨rfl, rfl⟩ := returns_request_iff.mp hexpand
      rw [hbuilder]
      exact (hs.extends hx).pushExpansion ⟨_, _, Imports.find?_transformOn t.imports, rfl⟩
    · split at h
      · obtain ⟨properties, hextended, hproperties⟩ := builder_applyDirective hcomponent _ _ _ h
        rw [hextended, hbuilder]
        exact (hs.extends hx).extend fun property hp =>
          ⟨(hproperties property hp).1, (hproperties property hp).typedBy _⟩
      · obtain ⟨rfl, rfl⟩ := returns_pure_iff.mp h
        change (PropsBuilder.extend _ _).TypedBy _ _
        rw [hbuilder]
        refine (hs.extends hx).extend (List.forall_mem_singleton.mpr ⟨rfl, ?_⟩)
        intro htype text hstring
        have hspelling := eq_of_propertyNameOf_eq (Option.some.inj htype)
        obtain ⟨ident, rfl, hident⟩ := AttrName.exists_plain_of_spelling hspelling
        refine ⟨attrValue, List.mem_filterMap.mpr ⟨_, hattr, if_pos hident⟩, htext.symm.trans ?_⟩
        cases value with
        | none => cases hstring
        | some node => exact hstring

/-- After all attributes of an element without spreads, its type is that of one of them. -/
theorem Attr.typedBy_compileAll {ctx : Context} {tag : ResolvedTag} {all attrs : List Attr}
    (hattrs : attrs ⊆ all) (hspread : ∀ attr ∈ attrs, attr.isSpread = false)
    (hcomponent : tag.isComponent = false) {state state' : PropsState} {s s' : Session}
    (hs : state.builder.TypedBy (typeValues all) s.imports)
    (h : Returns (Attr.compileAll ctx tag all state attrs) s state' s') :
    state'.builder.TypedBy (typeValues all) s'.imports := by
  induction attrs generalizing state s with
  | nil =>
    obtain ⟨rfl, rfl⟩ := returns_pure_iff.mp h
    exact hs
  | cons attr attrs ih =>
    rw [List.cons_subset] at hattrs
    rw [List.forall_mem_cons] at hspread
    obtain ⟨next, t, hattr, hrest⟩ := returns_bind_iff.mp h
    have hnext := Attr.typedBy_compile hattrs.1 hspread.1 hcomponent hs hattr
    exact ih hattrs.2 hspread.2 hnext hrest

namespace Node

/-- The tuples of the runtime directives that a compiled element applies. -/
def directiveTuples : Node → List Node
  | .call _ _ _ [.call .., .array _ tuples] => tuples
  | _ => []

/-- A call of more than two arguments applies no directives. -/
theorem directiveTuples_invoke (name : String) (first second third : Node) (rest : List Node) :
    (invoke name (first :: second :: third :: rest)).directiveTuples = [] := by
  unfold directiveTuples
  split
  · rename_i h
    cases h
  · rfl

/-- The handle of a directive tuple. -/
def tupleHandle? : Node → Option Node
  | .array _ (handle :: _) => some handle
  | _ => none

end Node

/-- The handle of a directive tuple is an export of the runtime. -/
def Node.IsHandledBy (symbol : Export) (imports : Imports) (tuple : Node) : Prop :=
  ∃ name, imports.exportName? symbol = some name ∧ tuple.tupleHandle? = some (.ref name)

/-- Whether an attribute is a directive for one model. -/
def Attr.isModel (attr : Attr) : Bool := attr.directive?.any (·.name == "model")

/-- If an attribute is a model, the tuple for it has an export of the runtime as its handle. -/
def Attr.AppliedThrough (symbol : Export) (imports : Imports) (attr : Attr) (tuple : Node) : Prop :=
  attr.isModel = true → tuple.IsHandledBy symbol imports

theorem Attr.AppliedThrough.extends {symbol : Export} {imports imports' : Imports} {attr : Attr}
    {tuple : Node} (h : attr.AppliedThrough symbol imports tuple) (hx : imports.Extends imports') :
    attr.AppliedThrough symbol imports' tuple := by
  intro hmodel
  obtain ⟨name, hname, hhandle⟩ := h hmodel
  exact ⟨name, hx.exportName? hname, hhandle⟩

/-- An attribute that is a model has a directive of that name. -/
theorem Attr.directiveName_of_isModel {span : Span} {name : AttrName} {value : AttrValue}
    (h : (Attr.named span name value).isModel = true) :
    (DirectiveName.ofAttr name).name = "model" := by
  obtain ⟨directive, hdirective, hmodel⟩ := (Option.any_eq_true _ _).mp h
  obtain ⟨_, hname⟩ := Option.ite_none_right_eq_some.mp hdirective
  cases hname
  exact eq_of_beq hmodel

/-- A model is handed over by the directive that the runtime exports for it. -/
theorem Attr.HandedOver.appliedThrough {ctx : Context} {tag : ResolvedTag} {all : List Attr}
    {first last : Imports} {attr : Attr} {tuple : Node}
    (h : attr.HandedOver ctx tag all first last tuple) :
    attr.AppliedThrough (modelExport tag all) last tuple := by
  obtain ⟨span, _, hhandle⟩ := h
  intro hmodel
  have hname := Attr.directiveName_of_isModel hmodel
  cases hhandle with
  | shown hshow _ => exact absurd (hshow.symm.trans hname) (by decide)
  | model _ h => exact ⟨_, h, rfl⟩
  | lookup _ hother _ => exact absurd hname hother

/-- The tuples that attributes add are those of the attributes that the runtime applies, in their
order. -/
theorem Attr.directives_compileAll {ctx : Context} {tag : ResolvedTag} {all attrs : List Attr}
    {state state' : PropsState} {s s' : Session}
    (h : Returns (Attr.compileAll ctx tag all state attrs) s state' s') :
    ∃ tuples, state'.directives = state.directives ++ tuples ∧
      List.Forall₂ (Attr.AppliedThrough (modelExport tag all) s'.imports)
        (attrs.filter (·.isApplied tag.isComponent)) tuples := by
  obtain ⟨tuples, htuples, hhanded⟩ := Attr.handedOver_compileAll (.refl _) h (.refl _)
  exact ⟨tuples, htuples, hhanded.imp fun _ _ hone => hone.appliedThrough⟩

namespace Compile

/-- The tuples of a finished element are those of its attributes. -/
theorem directiveTuples_finishElement (ctx : Context) (span : Span) (tag : ResolvedTag)
    (children : Children) (props : ElementProps) :
    Yields (finishElement ctx span tag children props) fun node =>
      node.directiveTuples = props.directives := by
  intro s node s' h
  obtain ⟨_, _, _, _, _, _, _, happlies⟩ := exists_of_finishElement h
  generalize props.directives = directives at happlies ⊢
  cases happlies with
  | none => exact Node.directiveTuples_invoke _ _ _ _ _
  | wrapped _ _ => rfl

/-- The name of an element of the platform is the name of its tag. -/
theorem name_resolveTag (ctx : Context) (name : TagName) :
    Yields (resolveTag ctx name) fun tag =>
      ∀ known, tag.name = some known →
        ∃ ident, name = .path (.ident ident) ∧ ident.name = known := by
  match name with
  | .path (.ident name) =>
    unfold resolveTag resolveIdent
    dsimp only
    split
    · exact yields_pure fun _ hname => ⟨name, rfl, Option.some.inj hname⟩
    · split
      · exact yields_bind_of_forall fun _ => yields_pure nofun
      · split
        · exact yields_pure nofun
        · split
          · exact yields_pure fun _ hname => ⟨name, rfl, Option.some.inj hname⟩
          · exact yields_bind_of_forall fun _ => yields_pure nofun
  | .path (.member span object property) => exact yields_pure nofun
  | .qualified name => exact yields_throw

end Compile

/-- The runtime directive of a model agrees with the emitted type. Let an element that is no
component and neither a `select` nor a `textarea`, without spreads among its attributes, compile to
a call in a session that requests have led to, where all its attributes `type` call for the same
directive and none of them has a line break in quotes. If a property `type` of the props argument
has a string as its value, then every tuple that the call applies a model by has the directive for
that string as its handle. -/
theorem Jsx.compile_model_follows_type (ctx : Context) (span : Span) (opening : Opening)
    (attrs : List Attr) (children : List Child) (closing : Option Closing) (options : Options)
    (bindings : Bindings) (s s' : Session) (node : Node)
    (hs : (Imports.new options bindings).LeadsTo s.imports)
    (hcomponent : opening.name.isComponent ctx.options = false)
    (htag : ∀ ident, opening.name = .path (.ident ident) →
      ident.name ≠ "select" ∧ ident.name ≠ "textarea")
    (hspread : ∀ attr ∈ attrs, attr.isSpread = false)
    (hsame : ∀ value ∈ typeValues attrs, ∀ other ∈ typeValues attrs,
      value.modelExport = other.modelExport)
    (hunbroken : ∀ value ∈ typeValues attrs, value.isUnbroken = true)
    (h : Returns ((Jsx.element span opening attrs children closing).compile ctx) s node s') :
    ∀ properties ∈ node.constructionProps.propsObjects s'.imports.mergePropsName?,
      ∀ property ∈ properties, property.propertyName? = some "type" →
        ∀ type, property.propertyValue.string? = some type →
          List.Forall₂ (Attr.AppliedThrough (.ofType type) s'.imports)
            (attrs.filter (·.isApplied false)) node.directiveTuples := by
  have hw := Jsx.wellFormed_compile hs h
  obtain ⟨tag, s₁, hresolved, h⟩ := returns_bind_iff.mp h
  obtain ⟨items, s₂, _, h⟩ := returns_bind_iff.mp h
  obtain ⟨state, s₃, hstate, h⟩ := returns_bind_iff.mp h
  obtain ⟨props, s₄, hprops, h⟩ := returns_bind_iff.mp h
  have hfinish := (requestsOnly_finishProps state).extends hprops
  have helement := (requestsOnly_finishElement ctx span tag items props).extends h
  have hcomponent' := (isComponent_resolveTag ctx opening.name _ _ _ hresolved).trans hcomponent
  have hname := name_resolveTag ctx opening.name _ _ _ hresolved
  have htyped := Attr.typedBy_compileAll (List.Subset.refl attrs) hspread hcomponent'
    (PropsBuilder.typedBy_new ctx.options.mergeProps _ _) hstate
  obtain ⟨tuples, htuples, hthrough⟩ := Attr.directives_compileAll hstate
  obtain ⟨argument, place, hargs⟩ := args_finishElement ctx span tag items props _ _ _ h
  have hemitted := directiveTuples_finishElement ctx span tag items props _ _ _ h
  obtain ⟨_, _, hf, hr⟩ := returns_bind_iff.mp hprops
  obtain ⟨rfl, rfl⟩ := returns_request_iff.mp hf
  obtain ⟨rfl, rfl⟩ := returns_pure_iff.mp hr
  intro properties hproperties property hproperty htype type hstring
  rw [Node.constructionProps_of_args hargs] at hproperties
  -- The emitted type is the text of one of the attributes, and all of them call for one directive.
  obtain ⟨value, hvalue, htext⟩ := (PropsBuilder.finished_finish helement).typedBy hw
    (htyped.extends (hfinish.trans helement)) properties hproperties property hproperty htype type
    hstring
  have hselect : tag.name ≠ some "select" := by
    intro hselect
    obtain ⟨ident, hpath, hident⟩ := hname _ hselect
    exact (htag ident hpath).1 hident
  have htextarea : tag.name ≠ some "textarea" := by
    intro htextarea
    obtain ⟨ident, hpath, hident⟩ := hname _ htextarea
    exact (htag ident hpath).2 hident
  have hexport := modelExport_of_emittedText? hselect htextarea hsame hvalue htext
    (hunbroken value hvalue)
  rw [hemitted]
  change List.Forall₂ _ _ state.directives
  rw [htuples, ← hcomponent', ← hexport]
  exact hthrough.imp fun _ _ hthrough => hthrough.extends (hfinish.trans helement)

/-- An attribute whose value is text in quotes. -/
def Attr.quoted (name text : String) : Attr :=
  .named .dummy (.plain (.generated name)) (.lit (.generated (.str text)))

/-- The element `input` with the given attributes and a model that binds `x`. -/
def Jsx.sampleInput (attrs : List Attr) : Jsx :=
  .element .dummy (.closed "input") (attrs ++ [.braced "v-model" "x"]) [] none

/-- A checkbox whose model is applied through the directive of the given local name. -/
def Node.sampleCheckbox (handle : String) : Node :=
  .invoke "_withDirectives" [.invoke "_createVNode" [.str "input",
    .objectOf [.pair (.str "type") (.str "checkbox"),
      .pair (.str "onUpdate:modelValue")
        (.arrow [.ref "$event"] (.assign (.ref "x") (.ref "$event")))],
    .null, .int 8 .dummy, .arrayOf [.str "onUpdate:modelValue"]],
    .arrayOf [.arrayOf [.ref handle, .ref "x"]]]

/-- The model of `<input type="checkbox" v-model={x}/>` is applied through the directive for
checkboxes. -/
theorem Jsx.checkbox_compile_model_follows_type :
    ∃ s', Returns ((Jsx.sampleInput [.quoted "type" "checkbox"]).compile .sample) (.new .sample)
        (.sampleCheckbox "_vModelCheckbox") s' ∧
      List.Forall₂ (Attr.AppliedThrough .vModelCheckbox s'.imports) [.braced "v-model" "x"]
        [.arrayOf [.ref "_vModelCheckbox", .ref "x"]] := by
  have hr : Returns ((Jsx.sampleInput [.quoted "type" "checkbox"]).compile .sample) (.new .sample)
      (.sampleCheckbox "_vModelCheckbox")
      ⟨(Imports.new .default .none).serveAll [.runtime .vModelCheckbox, .runtime .createVNode,
        .runtime .withDirectives], []⟩ := rfl
  refine ⟨_, hr, ?_⟩
  have htag : ∀ ident, (Opening.closed "input").name = .path (.ident ident) →
      ident.name ≠ "select" ∧ ident.name ≠ "textarea" := by
    rintro ident ⟨⟩
    decide
  exact Jsx.compile_model_follows_type _ _ _ _ _ _ .default .none _ _ _ (.refl _)
    (by decide +kernel) htag (by decide) (by decide) (by decide) hr _ List.mem_cons_self _
    List.mem_cons_self rfl "checkbox" rfl

/-- Of several attributes `type` the first one chooses the directive and the last one is emitted,
and a line break is dropped only from the emitted type: the models of
`<input type="text" type="checkbox" v-model={x}/>` and of an input whose type is `checkbox` after a
line break are applied to a checkbox through the directive for text. -/
theorem Jsx.checkbox_with_text_model :
    let session : Session := ⟨(Imports.new .default .none).serveAll
      [.runtime .vModelText, .runtime .createVNode, .runtime .withDirectives], []⟩
    Returns ((Jsx.sampleInput [.quoted "type" "text", .quoted "type" "checkbox"]).compile .sample)
        (.new .sample) (.sampleCheckbox "_vModelText") session ∧
      Returns ((Jsx.sampleInput [.quoted "type" "\ncheckbox"]).compile .sample) (.new .sample)
        (.sampleCheckbox "_vModelText") session ∧
      session.imports.exportName? .vModelText = some "_vModelText" ∧
      session.imports.exportName? .vModelCheckbox = none :=
  ⟨rfl, rfl, rfl, rfl⟩

end JsxVNode
