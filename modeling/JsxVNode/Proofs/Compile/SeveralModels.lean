import JsxVNode.Proofs.Compile.FlagBits
import JsxVNode.Proofs.Directive.Models

/-!
# Several models

A directive for several models has an array of arrays as its value, one for each
model, and every array is taken apart as the value of a directive for one model would
be. So a component gets the same from one directive for several models as from one
directive after the other for each of them.

The values and the modifiers of the models belong together by their index. Their
names do as well, unless the name of the directive has an argument: that one comes
before those that the arrays list, and each name goes to the next model.
-/

namespace JsxVNode

/-- Arrays are nested in an array if each of its elements has one of them inside. -/
theorem nestedElements?_eq_some_iff {elements : List Node} {entries : List (List Node)} :
    nestedElements? elements = some entries ↔
      List.Forall₂ (fun element entry => element.innerElements? = some entry) elements entries := by
  induction elements generalizing entries with
  | nil =>
    rw [List.forall₂_nil_left_iff, nestedElements?, Option.some_inj, eq_comm]
  | cons element elements ih =>
    simp only [nestedElements?_cons, Option.bind_eq_some_iff, Option.map_eq_some_iff, ih,
      List.forall₂_cons_left_iff]
    constructor
    · rintro ⟨entry, hentry, rest, hrest, rfl⟩
      exact ⟨entry, rest, hentry, hrest, rfl⟩
    · rintro ⟨entry, rest, hentry, hrest, rfl⟩
      exact ⟨entry, hentry, rest, hrest, rfl⟩

/-- The entries of several models that are given by nested arrays. -/
theorem directiveEntries_of_nested {name : DirectiveName} {value : Node} {elements : List Node}
    {entries : List (List Node)} (hname : name.name = "models")
    (hvalue : value.arrayElements? = some elements) (h : nestedElements? elements = some entries)
    (keepPlace : Bool) (fault : Fault) :
    directiveEntries name keepPlace (some value) fault =
      .ok (entries.map (.ofElements keepPlace name.modifiers)) := by
  rw [directiveEntries_eq, Option.bind_some, hvalue]
  dsimp only
  rw [if_pos hname, h]

/-- An array cannot be assigned to. -/
theorem Node.not_assignable_of_arrayElements? {value : Node} {elements : List Node}
    (h : value.arrayElements? = some elements) : ¬ value.Assignable := by
  intro hassignable
  induction hassignable with
  | ident name => cases h
  | member span data parts => cases h
  | superProp span data parts => cases h
  | paren span hbody ih => exact ih h

/-- The string that an element of several models lists after its value, if it lists one. -/
def Node.listedName? (element : Node) : Option String :=
  element.innerElements?.bind fun entry => entry[1]?.bind Node.string?

/-- A string in second place is an argument. -/
theorem Node.exists_listedArgument?_of_listedName? {element : Node} {entry : List Node}
    {text : String} (hentry : element.innerElements? = some entry)
    (htext : element.listedName? = some text) :
    ∃ arg, Node.listedArgument? entry = some arg ∧ arg.string? = some text := by
  rw [listedName?, hentry, Option.bind_some] at htext
  obtain ⟨second, hsecond, hstring⟩ := Option.bind_eq_some_iff.mp htext
  -- A string in parentheses is neither a hole nor a spread nor an array.
  have hlit : ∃ l, second.unparen = .lit l := by
    unfold string? at hstring
    split at hstring
    · exact ⟨_, by assumption⟩
    · cases hstring
  obtain ⟨l, hl⟩ := hlit
  have hplace : elementAt? entry 1 = some second := by
    unfold elementAt?
    rw [hsecond]
    cases second with
    | hole => cases hl
    | _ => rfl
  have hspread : second.isSpread = false := by
    cases second with
    | spread => cases hl
    | _ => rfl
  have harray : second.arrayElements? = none := by
    unfold arrayElements?
    rw [hl]
    rfl
  refine ⟨second, ?_, hstring⟩
  rw [listedArgument?, hplace, Option.filter_some, hspread, harray]
  rfl

/-- A model is bound under a name: its value is passed down under the name, and its handler has the
name after `onUpdate:`. -/
def Model.BoundUnder (m : Model) (name : String) : Prop :=
  m.valueProperty = .pair (.str name) m.value ∧
    m.handlerProperty = .pair (.str ("onUpdate:" ++ name)) m.handler

/-- A model with a fixed name binds its value and its handler under that name. -/
theorem Model.boundUnder_of_name {m : Model} {name : String} (h : m.name = .static name) :
    m.BoundUnder name := by
  unfold BoundUnder valueProperty handlerProperty
  rw [h]
  exact ⟨rfl, rfl⟩

/-- The model at the index of an argument that is a string is bound under it. -/
theorem Model.IsAt.boundUnder {values args : List (Option Node)} {modifiers : List NameSet}
    {index : Nat} {m : Model} {arg : Node} {name : String} (h : m.IsAt values args modifiers index)
    (harg : args[index]? = some (some arg)) (hname : arg.string? = some name) :
    m.BoundUnder name := by
  have hgiven := h.name
  rw [harg] at hgiven
  exact boundUnder_of_name (hgiven.eq_static hname)

/-- Several models that were taken apart on a component. -/
theorem Compile.returns_parseDirective_models {span : Span} {name : AttrName}
    {attrValue : AttrValue} {value : Node} {tag : ResolvedTag} {attrs : List Attr} {s s' : Session}
    {parsed : ParsedDirective} {elements : List Node}
    (hr : Returns (parseDirective span name attrValue (some value) tag attrs) s parsed s')
    (hname : (DirectiveName.ofAttr name).name = "models")
    (hvalue : value.arrayElements? = some elements) :
    ∃ entries, nestedElements? elements = some entries ∧
      parsed = .ofEntries (.ofAttr name) (some value)
        (entries.map (.ofElements true (DirectiveName.ofAttr name).modifiers)) := by
  obtain ⟨taken, htaken, hparsed⟩ := returns_parseDirective hr
  have hplace : isRuntimeDirective (DirectiveName.ofAttr name).name tag = false := by
    rw [hname]
    rfl
  rw [hplace] at htaken hparsed
  rcases hparsed with ⟨_, _, rfl⟩ | ⟨habsurd, _⟩
  · cases hentries : nestedElements? elements with
    | none =>
      rw [directiveEntries_eq, Option.bind_some, hvalue] at htaken
      dsimp only at htaken
      rw [if_pos hname, hentries] at htaken
      cases htaken
    | some entries =>
      rw [directiveEntries_of_nested hname hvalue hentries] at htaken
      cases htaken
      exact ⟨entries, rfl, rfl⟩
  · cases habsurd

/-- What the directive of several models is taken apart to, if it has an entry. -/
theorem ParsedDirective.ofEntries_nested (name : DirectiveName) (value : Option Node)
    {entries : List (List Node)} (hne : entries ≠ []) :
    ParsedDirective.ofEntries name value
        (entries.map (DirectiveEntry.ofElements true name.modifiers)) =
      { name := name.name
        values := entries.map Node.firstBound?
        args := name.argument.toList.map (some ∘ Node.str) ++ entries.map Node.listedArgument?
        modifiers := entries.map fun entry =>
          (DirectiveEntry.ofElements true name.modifiers entry).modifiers
        tuple := none } := by
  unfold ParsedDirective.ofEntries
  rw [flatMap_args_ofElements, if_neg (by simpa using hne), List.map_map, List.map_map]
  congr 1
  exact List.map_congr_left fun entry _ => DirectiveEntry.value_ofElements _ _ _

/-- The models of a directive for several models, by the entries of the directive. -/
theorem Compile.exists_models_of_parseDirective {span : Span} {name : AttrName}
    {attrValue : AttrValue} {value : Node} {tag : ResolvedTag} {attrs : List Attr} {s s' : Session}
    {parsed : ParsedDirective} {elements : List Node} {props : ModelProps}
    (hr : Returns (parseDirective span name attrValue (some value) tag attrs) s parsed s')
    (hname : (DirectiveName.ofAttr name).name = "models")
    (hvalue : value.arrayElements? = some elements) (hprops : parsed.models span = .ok props) :
    ∃ (entries : List (List Node)) (models : List Model),
      List.Forall₂ (fun element entry => element.innerElements? = some entry) elements entries ∧
      models.length = entries.length ∧ props = .ofModels true models ∧
      ∀ (index : Nat) (m : Model), models[index]? = some m →
        m.IsAt (entries.map Node.firstBound?)
          ((DirectiveName.ofAttr name).argument.toList.map (some ∘ Node.str) ++
            entries.map Node.listedArgument?)
          (entries.map fun entry =>
            (DirectiveEntry.ofElements true (DirectiveName.ofAttr name).modifiers entry).modifiers)
          index := by
  obtain ⟨entries, hnested, rfl⟩ := returns_parseDirective_models hr hname hvalue
  -- An empty array would have to be bound itself.
  have hne : entries ≠ [] := by
    rintro rfl
    have hunassignable : ∀ node ∈ some value, ¬ node.Assignable := by
      rintro node ⟨⟩
      exact Node.not_assignable_of_arrayElements? hvalue
    obtain ⟨fault, hfault⟩ :=
      modelPropsOf_error_iff.mpr ⟨some value, List.mem_singleton_self _, hunassignable⟩
    cases hprops.symm.trans hfault
  rw [ParsedDirective.ofEntries_nested _ _ hne] at hprops
  obtain ⟨models, hlength, hat, rfl⟩ := exists_models_of_modelPropsOf hprops
  rw [List.length_map] at hlength
  exact ⟨entries, models, nestedElements?_eq_some_iff.mp hnested, hlength, rfl, hat⟩

/-- A string that an element lists is the argument of its entry. -/
theorem exists_getElem?_of_listedName? {elements : List Node} {entries : List (List Node)}
    {index : Nat} {text : String}
    (h : List.Forall₂ (fun element entry => element.innerElements? = some entry) elements entries)
    (htext : elements[index]?.bind Node.listedName? = some text) :
    ∃ arg : Node, (entries.map Node.listedArgument?)[index]? = some (some arg) ∧
      arg.string? = some text := by
  obtain ⟨element, helement, hlisted⟩ := Option.bind_eq_some_iff.mp htext
  obtain ⟨hindex, rfl⟩ := List.getElem?_eq_some_iff.mp helement
  have hindex' : index < entries.length := h.length_eq ▸ hindex
  have hentry : elements[index].innerElements? = some entries[index] := h.get hindex hindex'
  obtain ⟨arg, harg, hstring⟩ := Node.exists_listedArgument?_of_listedName? hentry hlisted
  refine ⟨arg, ?_, hstring⟩
  rw [List.getElem?_map, List.getElem?_eq_getElem hindex']
  exact congrArg some harg

namespace Compile

/-- Several models are bound by their index. If a directive for several models on an array of arrays
is taken apart and its models can be assigned to, there is one model for each array, which binds the
first element of the array and has its modifiers unless there are none. If the name of the directive
has no argument, a string that an array lists is what its own model is bound under. If there is an
argument, it goes to the first model, and a string that an array lists goes to the next one. -/
theorem models_bound_by_index {span : Span} {name : AttrName} {attrValue : AttrValue} {value : Node}
    {tag : ResolvedTag} {attrs : List Attr} {s s' : Session} {parsed : ParsedDirective}
    {elements : List Node} {props : ModelProps}
    (hr : Returns (parseDirective span name attrValue (some value) tag attrs) s parsed s')
    (hname : (DirectiveName.ofAttr name).name = "models")
    (hvalue : value.arrayElements? = some elements) (hprops : parsed.models span = .ok props) :
    ∃ models : List Model, props.props = models.flatMap (Model.properties true) ∧
      models.length = elements.length ∧
      ∀ (index : Nat) (m : Model), models[index]? = some m →
        (∃ entry, elements[index]?.bind Node.innerElements? = some entry ∧
          Node.firstBound? entry = some m.value ∧
          m.modifiers = (some (DirectiveEntry.ofElements true (DirectiveName.ofAttr name).modifiers
            entry).modifiers).filter (!·.isEmpty)) ∧
        ((DirectiveName.ofAttr name).argument = none →
          ∀ text, elements[index]?.bind Node.listedName? = some text → m.BoundUnder text) ∧
        ∀ argument, (DirectiveName.ofAttr name).argument = some argument →
          (index = 0 → m.BoundUnder argument) ∧
          ∀ previous text, index = previous + 1 →
            elements[previous]?.bind Node.listedName? = some text → m.BoundUnder text := by
  obtain ⟨entries, models, hentries, hlength, rfl, hat⟩ :=
    exists_models_of_parseDirective hr hname hvalue hprops
  refine ⟨models, rfl, hlength.trans hentries.length_eq.symm, fun index m hm => ?_⟩
  have hm' := hat index m hm
  refine ⟨?_, fun hargument text htext => ?_, fun argument hargument => ⟨?_, ?_⟩⟩
  · obtain ⟨hbound, -, hmodifiers⟩ := hm'
    rw [List.getElem?_map, Option.map_eq_some_iff] at hbound
    obtain ⟨entry, hentry, hfirst⟩ := hbound
    obtain ⟨hindex, rfl⟩ := List.getElem?_eq_some_iff.mp hentry
    have hindex' : index < elements.length := hentries.length_eq ▸ hindex
    rw [List.getElem?_map, hentry] at hmodifiers
    refine ⟨entries[index], ?_, hfirst, hmodifiers⟩
    rw [List.getElem?_eq_getElem hindex', Option.bind_some]
    exact hentries.get hindex' hindex
  · obtain ⟨arg, harg, hstring⟩ := exists_getElem?_of_listedName? hentries htext
    rw [hargument] at hm'
    exact hm'.boundUnder harg hstring
  · rintro rfl
    rw [hargument] at hm'
    exact hm'.boundUnder rfl rfl
  · rintro previous text rfl htext
    obtain ⟨arg, harg, hstring⟩ := exists_getElem?_of_listedName? hentries htext
    rw [hargument] at hm'
    exact hm'.boundUnder harg hstring

/-- A component that the file declares. -/
def sampleTag : ResolvedTag := ⟨.ref "Box", none, true, false⟩

/-- The value `[[a], [b, "y"]]` of several models. -/
def sampleModels : Node := .arrayOf [.arrayOf [.ref "a"], .arrayOf [.ref "b", .str "y"]]

/-- The directive `v-models={[[a], [b, "y"]]}` binds `b` under `y`. -/
theorem sampleModels_bound_by_index :
    ∃ parsed props, Returns (parseDirective .dummy (.plain (.generated "v-models"))
        (.container .dummy sampleModels) (some sampleModels) sampleTag []) (.new .sample) parsed
        (.new .sample) ∧ parsed.models .dummy = .ok props ∧
      ∃ models : List Model, props.props = models.flatMap (Model.properties true) ∧
        ∀ m, models[1]? = some m → m.BoundUnder "y" := by
  have hr : Returns (parseDirective .dummy (.plain (.generated "v-models"))
      (.container .dummy sampleModels) (some sampleModels) sampleTag []) (.new .sample)
      ⟨"models", [some (.ref "a"), some (.ref "b")], [none, some (.str "y")], [.empty, .empty],
        none⟩ (.new .sample) := rfl
  obtain ⟨models, hprops, -, hbound⟩ := models_bound_by_index hr rfl rfl rfl
  refine ⟨_, _, hr, rfl, models, hprops, fun m hm => ?_⟩
  exact (hbound 1 m hm).2.1 rfl "y" rfl

/-- The directive `v-models:foo={[[a], [b, "y"]]}` binds `a` under `foo`, which leaves the name
`modelValue` to `b`. No property is named `y`. -/
theorem argument_displaces_listed_name :
    ∃ parsed props, Returns (parseDirective .dummy
        (.qualified ⟨.dummy, .generated "v-models", .generated "foo"⟩)
        (.container .dummy sampleModels) (some sampleModels) sampleTag []) (.new .sample) parsed
        (.new .sample) ∧ parsed.models .dummy = .ok props ∧
      props.props =
        [.pair (.str "foo") (.ref "a"),
          .pair (.str "onUpdate:foo") (.arrow [.ref "$event"] (.assign (.ref "a") (.ref "$event"))),
          .pair (.str "modelValue") (.ref "b"),
          .pair (.str "onUpdate:modelValue")
            (.arrow [.ref "$event"] (.assign (.ref "b") (.ref "$event")))] ∧
      ∀ property ∈ props.props, property.propertyName? ≠ some "y" := by
  refine ⟨⟨"models", [some (.ref "a"), some (.ref "b")], [some (.str "foo"), none, some (.str "y")],
    [.empty, .empty], none⟩, _, rfl, rfl, rfl, ?_⟩
  decide

end Compile

/-!
# One model after the other

The entries of a directive for several models contribute to a component what one
directive for each of them contributes, written in the order of the entries.
-/

/-- An attribute that is a directive, with a name without an argument and a value in braces. -/
inductive Attr.Binds (directive : String) (span : Span) (modifiers : NameSet) (value : Node) :
    Attr → Prop where
  | intro (name : Ident) (braces : Span) (hd : isDirectiveName name.name = true)
      (hn : DirectiveName.ofAttr (.plain name) = ⟨directive, none, modifiers⟩) :
      Binds directive span modifiers value (.named span (.plain name) (.container braces value))

/-- The contributions to a component of the models that entries give. -/
def modelsOf (fault : Fault) (modifiers : NameSet) (entries : List (List Node)) :
    Except Fault ModelProps :=
  modelPropsOf true fault (entries.map Node.firstBound?) (entries.map Node.listedArgument?)
    (entries.map fun entry => (DirectiveEntry.ofElements true modifiers entry).modifiers)

/-- The first entry gives its models, and the others give theirs. -/
theorem modelsOf_cons (fault : Fault) (modifiers : NameSet) (entry : List Node)
    (entries : List (List Node)) :
    modelsOf fault modifiers (entry :: entries) =
      (modelsOf fault modifiers [entry]).bind fun first =>
        (modelsOf fault modifiers entries).map first.append := by
  unfold modelsOf
  simp only [List.map_cons, List.map_nil, modelPropsOf, List.head?_cons, List.tail_cons]
  cases Node.firstBound? entry with
  | none => rfl
  | some value =>
    dsimp only
    cases value.assignTarget? with
    | none => rfl
    | some target =>
      dsimp only [Except.map, Except.bind]
      simp only [ModelProps.append, ModelProps.empty, List.append_nil, Bool.or_false]

/-- The fault that models may end in does not matter to those that do not. -/
theorem modelPropsOf_eq_ok_iff (fault fault' : Fault) {onComponent : Bool}
    {values args : List (Option Node)} {modifiers : List NameSet} {props : ModelProps} :
    modelPropsOf onComponent fault values args modifiers = .ok props ↔
      modelPropsOf onComponent fault' values args modifiers = .ok props := by
  have hmap {e : Except Fault ModelProps} {f : ModelProps → ModelProps} {props : ModelProps} :
      e.map f = .ok props ↔ ∃ rest, e = .ok rest ∧ f rest = props := by
    cases e <;> simp [Except.map]
  induction values generalizing args modifiers props with
  | nil => rfl
  | cons value values ih =>
    cases value with
    | none => simp [modelPropsOf]
    | some value =>
      simp only [modelPropsOf]
      cases value.assignTarget? with
      | none => simp
      | some target => simp only [hmap, ih]

namespace PropsState

theorem addModels_empty (state : PropsState) : state.addModels .empty = state := by
  simp [addModels, extend, noteNames, ModelProps.empty, PropsBuilder.extend, NameSet.insertAll]

/-- Models that are joined are added one after the other. -/
theorem addModels_append (state : PropsState) (a b : ModelProps) :
    state.addModels (a.append b) = (state.addModels a).addModels b := by
  simp [addModels, extend, noteNames, ModelProps.append, PropsBuilder.extend,
    NameSet.insertAll_append, Bool.or_assoc]

end PropsState

namespace Compile

theorem ofExcept_bind {α β : Type} (e : Except Fault α) (f : α → Except Fault β) :
    ofExcept (e.bind f) = ofExcept e >>= fun a => ofExcept (f a) := by
  cases e <;> rfl

theorem ofExcept_map {α β : Type} (e : Except Fault α) (f : α → β) :
    ofExcept (e.map f) = ofExcept e >>= fun a => pure (f a) := by
  cases e <;> rfl

/-- Passing on two results coincides if they have the same values, whatever their faults are. -/
theorem coincide_ofExcept {α : Type} {e e' : Except Fault α} (h : ∀ a, e = .ok a ↔ e' = .ok a) :
    Coincide (ofExcept e) (ofExcept e') := by
  intro s a s'
  rw [returns_ofExcept_iff, returns_ofExcept_iff, h]

variable {tag : ResolvedTag} {span : Span} {modifiers : NameSet} {value : Node}
  {directive : String} {entries : List (List Node)}

/-- On a component every model directive is applied at compile time. -/
theorem isRuntimeDirective_of_model (hmodel : directive = "model" ∨ directive = "models")
    (hcomponent : tag.isComponent = true) : isRuntimeDirective directive tag = false := by
  rcases hmodel with rfl | rfl
  · rw [isRuntimeDirective, hcomponent]
    rfl
  · rfl

/-- A model directive on a component is taken apart to its entries. -/
theorem parseDirective_of_model {name : Ident} (braces : Span) (all : List Attr)
    (hn : DirectiveName.ofAttr (.plain name) = ⟨directive, none, modifiers⟩)
    (hmodel : directive = "model" ∨ directive = "models") (hcomponent : tag.isComponent = true)
    (hentries : directiveEntries ⟨directive, none, modifiers⟩ true (some value)
      (.modelsNotNested span) = .ok (entries.map (.ofElements true modifiers))) :
    parseDirective span (.plain name) (.container braces value) (some value) tag all =
      pure (.ofEntries ⟨directive, none, modifiers⟩ (some value)
        (entries.map (.ofElements true modifiers))) := by
  rw [parseDirective_eq, hn, isRuntimeDirective_of_model hmodel hcomponent, hcomponent]
  rw [if_neg (by simp [AttrValue.isContainer]), if_neg (by simp), Bool.not_false, hentries]
  rfl

/-- A model directive on a component adds the models that its entries give. -/
theorem compile_binds (ctx : Context) (all : List Attr) (state : PropsState) {attr : Attr}
    (hattr : attr.Binds directive span modifiers value)
    (hmodel : directive = "model" ∨ directive = "models") (hcomponent : tag.isComponent = true)
    (hne : entries ≠ [])
    (hentries : directiveEntries ⟨directive, none, modifiers⟩ true (some value)
      (.modelsNotNested span) = .ok (entries.map (.ofElements true modifiers))) :
    ∃ fault, attr.compile ctx tag all state = do
      let models ← ofExcept (modelsOf fault modifiers entries)
      return state.addModels models := by
  obtain ⟨name, braces, hd, hn⟩ := hattr
  change isDirectiveName (AttrName.plain name).spelling = true at hd
  rw [Attr.compile, AttrValue.compile, pure_bind, applyAttr_of_isDirectiveName _ _ _ _ _ _ _ hd,
    applyDirective_eq, parseDirective_of_model braces all hn hmodel hcomponent hentries, pure_bind,
    ParsedDirective.ofEntries_nested _ _ hne]
  rcases hmodel with rfl | rfl
  · exact ⟨.notAssignable "v-model" span, rfl⟩
  · exact ⟨.notAssignable "v-models" span, rfl⟩

/-- The models of entries are those of one directive after the other for each of them. -/
theorem coincide_compileAll_each (ctx : Context) (hcomponent : tag.isComponent = true)
    (fault : Fault) (all : List Attr) {each : List Attr}
    (h : List.Forall₂ (fun entry attr => ∃ element : Node, element.arrayElements? = some entry ∧
      attr.Binds "model" span modifiers element) entries each) (state : PropsState) :
    Coincide (do
        let models ← ofExcept (modelsOf fault modifiers entries)
        return state.addModels models)
      (Attr.compileAll ctx tag all state each) := by
  induction h generalizing state with
  | nil =>
    rw [Attr.compileAll]
    change Coincide (pure (state.addModels .empty)) (pure state)
    rw [state.addModels_empty]
    exact .refl _
  | @cons entry attr entries each hfirst hrest ih =>
    obtain ⟨element, helement, hattr⟩ := hfirst
    have hentry : directiveEntries ⟨"model", none, modifiers⟩ true (some element)
        (.modelsNotNested span) = .ok ([entry].map (.ofElements true modifiers)) := by
      rw [directiveEntries_eq, Option.bind_some, helement]
      rfl
    obtain ⟨fault', hcompile⟩ := compile_binds ctx all state hattr (.inl rfl) hcomponent
      (List.cons_ne_nil _ _) hentry
    rw [Attr.compileAll, hcompile, modelsOf_cons, ofExcept_bind]
    simp only [ofExcept_map, bind_assoc, pure_bind, PropsState.addModels_append]
    exact (coincide_ofExcept fun _ => modelPropsOf_eq_ok_iff _ _).bind fun _ first _ _ =>
      ih (state.addModels first)

end Compile

open Compile

theorem Attr.Binds.inputType? {directive : String} {span : Span} {modifiers : NameSet}
    {value : Node} {attr : Attr} (h : attr.Binds directive span modifiers value) :
    inputType? [attr] = none := by
  obtain ⟨name, braces, hd, _⟩ := h
  exact inputType?_of_isDirectiveName span (.container braces value) hd

/-- Directives that bind elements say nothing about the type of an input. -/
theorem inputType?_of_binds {directive : String} {span : Span} {modifiers : NameSet}
    {elements : List Node} {attrs : List Attr}
    (h : List.Forall₂ (fun element attr => attr.Binds directive span modifiers element) elements
      attrs) : inputType? attrs = none := by
  induction h with
  | nil => rfl
  | cons hattr _ ih =>
    rw [← List.singleton_append, inputType?_append, hattr.inputType?, ih]
    rfl

/-- An element that is an array itself has its elements as the inner ones. -/
theorem Node.innerElements?_of_arrayElements? {element : Node} {entry : List Node}
    (h : element.arrayElements? = some entry) : element.innerElements? = some entry := by
  cases element with
  | hole => cases h
  | spread => cases h
  | _ => exact h

/-- The entries of several models, each beside the attribute for it. -/
theorem exists_entries_of_binds {elements : List Node} {each : List Attr} {span : Span}
    {modifiers : NameSet} (harrays : ∀ element ∈ elements, element.arrayElements?.isSome = true)
    (h : List.Forall₂ (fun element attr => attr.Binds "model" span modifiers element) elements
      each) :
    ∃ entries, nestedElements? elements = some entries ∧
      List.Forall₂ (fun entry attr => ∃ element : Node, element.arrayElements? = some entry ∧
        attr.Binds "model" span modifiers element) entries each := by
  induction h with
  | nil => exact ⟨[], rfl, .nil⟩
  | @cons element attr elements each hattr hrest ih =>
    obtain ⟨helement, helements⟩ := List.forall_mem_cons.mp harrays
    obtain ⟨entry, hentry⟩ := Option.isSome_iff_exists.mp helement
    obtain ⟨entries, hnested, heach⟩ := ih helements
    refine ⟨entry :: entries, ?_, .cons ⟨element, hentry, hattr⟩ heach⟩
    rw [nestedElements?_cons, Node.innerElements?_of_arrayElements? hentry, hnested]
    rfl

/-- A directive for several models does what one directive for each of them would do. Let a
component have an attribute `v-models`, perhaps with modifiers, whose value is an array of arrays,
and let it be replaced where it stands by an attribute `v-model` for each of the arrays, with the
same range and modifiers. Both elements fail or none does, and they compile to the same node and
leave the same session behind. -/
theorem Jsx.compile_each_model (ctx : Context) (span : Span) (opening : Opening)
    (before after : List Attr) (children : List Child) (closing : Option Closing)
    {attrSpan : Span} {modifiers : NameSet} {value : Node} {elements : List Node} {several : Attr}
    {each : List Attr} (hcomponent : opening.name.isComponent ctx.options = true)
    (hseveral : several.Binds "models" attrSpan modifiers value)
    (hvalue : value.arrayElements? = some elements) (hne : elements ≠ [])
    (harrays : ∀ element ∈ elements, element.arrayElements?.isSome = true)
    (heach : List.Forall₂ (fun element attr => attr.Binds "model" attrSpan modifiers element)
      elements each) (s : Session) :
    (Fails ((Jsx.element span opening (before ++ several :: after) children closing).compile ctx)
        s ↔
      Fails ((Jsx.element span opening (before ++ each ++ after) children closing).compile ctx)
        s) ∧
    ∀ node s',
      Returns ((Jsx.element span opening (before ++ several :: after) children closing).compile ctx)
        s node s' ↔
      Returns ((Jsx.element span opening (before ++ each ++ after) children closing).compile ctx)
        s node s' := by
  have hcoincide : Coincide
      ((Jsx.element span opening (before ++ several :: after) children closing).compile ctx)
      ((Jsx.element span opening (before ++ each ++ after) children closing).compile ctx) := by
    -- None of the attributes that are exchanged is a `type`.
    have htype : inputType? (before ++ several :: after) =
        inputType? (before ++ each ++ after) := by
      rw [← List.singleton_append, List.append_assoc, inputType?_append, inputType?_append,
        hseveral.inputType?, inputType?_append, inputType?_append, inputType?_of_binds heach]
    obtain ⟨entries, hnested, hentries⟩ := exists_entries_of_binds harrays heach
    have hne' : entries ≠ [] := by
      rintro rfl
      exact hne (List.forall₂_nil_right_iff.mp (nestedElements?_eq_some_iff.mp hnested))
    refine Coincide.bind (.refl _) fun _ tag _ htag => ?_
    have htag' := (isComponent_resolveTag ctx opening.name _ _ _ htag).trans hcomponent
    refine Coincide.bind (.refl _) fun _ items _ _ => ?_
    refine Coincide.bind ?_ fun _ state _ _ => .refl _
    rw [Attr.compileAll_congr htype, Attr.compileAll_append, List.append_assoc,
      Attr.compileAll_append]
    refine Coincide.bind (.refl _) fun _ state _ _ => ?_
    obtain ⟨fault, hcompile⟩ := compile_binds ctx (before ++ (each ++ after)) state hseveral
      (.inr rfl) htag' hne' (directiveEntries_of_nested rfl hvalue hnested true _)
    rw [Attr.compileAll, Attr.compileAll_append, hcompile]
    have heach' := coincide_compileAll_each ctx htag' fault (before ++ (each ++ after)) hentries
    exact (heach' state).bind fun _ state _ _ => .refl _
  exact ⟨hcoincide.fails_iff s, hcoincide s⟩

/-- The values `[a, "x"]` and `[b]` of two models. -/
def Node.sampleEntries : List Node := [.arrayOf [.ref "a", .str "x"], .arrayOf [.ref "b"]]

/-- The attribute `v-models_trim={[[a, "x"], [b]]}`. -/
def Attr.sampleSeveral : Attr :=
  .named .dummy (.plain (.generated "v-models_trim"))
    (.container .dummy (.arrayOf Node.sampleEntries))

/-- The attributes `v-model_trim={[a, "x"]} v-model_trim={[b]}`. -/
def Attr.sampleEach : List Attr :=
  Node.sampleEntries.map fun value =>
    .named .dummy (.plain (.generated "v-model_trim")) (.container .dummy value)

/-- The element `<Box v-models_trim={[[a, "x"], [b]]} id={y}/>` compiles to the same node as the
element `<Box v-model_trim={[a, "x"]} v-model_trim={[b]} id={y}/>`. -/
theorem Jsx.sample_compile_each_model :
    let node : Node := .invoke "_createVNode" [.invoke "_resolveComponent" [.str "Box"],
      .objectOf [.pair (.str "x") (.ref "a"),
        .pair (.str "onUpdate:x") (.arrow [.ref "$event"] (.assign (.ref "a") (.ref "$event"))),
        .pair (.str "modelValue") (.ref "b"),
        .pair (.str "modelModifiers") (.objectOf [.pair (.ref "trim") (.bool true)]),
        .pair (.str "onUpdate:modelValue")
          (.arrow [.ref "$event"] (.assign (.ref "b") (.ref "$event"))),
        .pair (.str "id") (.ref "y")],
      .null, .int 8 .dummy,
      .arrayOf (["x", "onUpdate:x", "modelValue", "onUpdate:modelValue", "id"].map .str)]
    ∃ s',
      Returns ((Jsx.element .dummy (.closed "Box") [.sampleSeveral, .braced "id" "y"] []
        none).compile .sample) (.new .sample) node s' ∧
      Returns ((Jsx.element .dummy (.closed "Box") (Attr.sampleEach ++ [.braced "id" "y"]) []
        none).compile .sample) (.new .sample) node s' := by
  intro node
  have hreturns : Returns
      ((Jsx.element .dummy (.closed "Box") [.sampleSeveral, .braced "id" "y"] [] none).compile
        .sample) (.new .sample) node
      ⟨(Imports.new .default .none).serveAll
        [.runtime .resolveComponent, .runtime .createVNode], []⟩ := rfl
  have hseveral : Attr.sampleSeveral.Binds "models" .dummy (.ofList ["trim"])
      (.arrayOf Node.sampleEntries) := .intro _ _ rfl rfl
  have heach : List.Forall₂
      (fun element attr => attr.Binds "model" .dummy (.ofList ["trim"]) element)
      Node.sampleEntries Attr.sampleEach :=
    .cons (.intro _ _ rfl rfl) (.cons (.intro _ _ rfl rfl) .nil)
  have harrays : ∀ element ∈ Node.sampleEntries, element.arrayElements?.isSome = true := by
    decide
  have hsame := (Jsx.compile_each_model .sample .dummy (.closed "Box") [] [.braced "id" "y"] [] none
    (by decide +kernel) hseveral rfl (List.cons_ne_nil _ _) harrays heach (.new .sample)).2
  exact ⟨_, hreturns, (hsame _ _).mp hreturns⟩

end JsxVNode
