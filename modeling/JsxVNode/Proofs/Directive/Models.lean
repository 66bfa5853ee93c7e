import JsxVNode.Proofs.Compile.Faults

/-!
# Models by their index

A model directive that was taken apart has values, arguments and sets of modifiers. The
three lists belong together by their index, and need not have the same length. The main
statement says what the directive contributes, index by index: each value is passed down
under a name and written back by a handler of the same name, in the order of the values.
-/

namespace JsxVNode

/-- The name that an argument gives to a model: the default name if it is absent or `null`, the
string of a string literal in any number of parentheses, and otherwise the argument itself, which
has to be evaluated. -/
inductive ModelName.GivenBy : Option Node → ModelName → Prop where
  | absent : GivenBy none (.static "modelValue")
  | null (span : Span) (raw : Option String) :
      GivenBy (some (.lit ⟨span, raw, .null⟩)) (.static "modelValue")
  | text {arg : Node} {name : String} (h : arg.string? = some name) :
      GivenBy (some arg) (.static name)
  | expression {arg : Node} (hnull : ∀ span raw, arg ≠ .lit ⟨span, raw, .null⟩)
      (hstring : arg.string? = none) : GivenBy (some arg) (.dynamic arg)

/-- The name read off an argument is the one that the argument gives. -/
theorem ModelName.givenBy_ofArg (arg : Option Node) : GivenBy arg (ofArg arg) := by
  cases arg with
  | none => exact .absent
  | some arg =>
    unfold ofArg
    dsimp only
    split
    · exact .null _ _
    · rename_i hnull
      cases hs : arg.string? with
      | some name => exact .text hs
      | none => exact .expression hnull hs

/-- A string literal gives its string and nothing else. -/
theorem ModelName.GivenBy.eq_static {arg : Node} {name : ModelName} {text : String}
    (h : GivenBy (some arg) name) (hs : arg.string? = some text) : name = .static text := by
  cases h with
  | null span raw => cases hs
  | text h =>
    rw [hs] at h
    cases h
    rfl
  | expression hnull hstring =>
    rw [hs] at hstring
    cases hstring

/-- A model: the value it binds, the name it is bound under, and its modifiers, if it has any. -/
structure Model where
  value : Node
  name : ModelName
  modifiers : Option NameSet

namespace Model

/-- Whether the name of a model has to be evaluated. -/
def isComputed (m : Model) : Bool :=
  match m.name with
  | .static _ => false
  | .dynamic _ => true

/-- The property that passes the value down. -/
def valueProperty (m : Model) : Node :=
  match m.name with
  | .static name => .pair (.str name) m.value
  | .dynamic name => .pair (.computedKey name) m.value

/-- The property that lists the modifiers, if there are any. -/
def modifiersProperty? (m : Model) : Option Node :=
  m.modifiers.map fun modifiers =>
    match m.name with
    | .static name =>
      .pair (.str (if name = "modelValue" then "modelModifiers" else name ++ "Modifiers"))
        (modifiersObject modifiers)
    | .dynamic name =>
      .pair (.computedKey (.binary "+" name (.str "Modifiers"))) (modifiersObject modifiers)

/-- The handler that writes the value back to the expression inside its parentheses. -/
def handler (m : Model) : Node :=
  .arrow [.ref "$event"] (.assign m.value.unparen (.ref "$event"))

/-- The property that holds the handler. -/
def handlerProperty (m : Model) : Node :=
  match m.name with
  | .static name => .pair (.str ("onUpdate:" ++ name)) m.handler
  | .dynamic name => .pair (.computedKey (.binary "+" (.str "onUpdate:") name)) m.handler

/-- The properties of a model. If the runtime applies the directive, it owns the value and only the
handler is added. -/
def properties (onComponent : Bool) (m : Model) : List Node :=
  (if onComponent then m.valueProperty :: m.modifiersProperty?.toList else []) ++
    [m.handlerProperty]

/-- The names of a model that are listed as those of properties that can change: the static keys of
its value and its handler. -/
def listedNames (onComponent : Bool) (m : Model) : List String :=
  ((if onComponent then [m.valueProperty] else []) ++ [m.handlerProperty]).filterMap
    Node.propertyName?

end Model

/-- The object of the modifiers has one property for each of them, in their order, and each property
is `true`. -/
theorem exists_entries_modifiersObject (modifiers : NameSet) :
    ∃ entries, modifiersObject modifiers = .objectOf entries ∧
      entries.map Node.propertyName? = modifiers.toList.map some ∧
      ∀ entry ∈ entries, entry.propertyValue = .bool true := by
  refine ⟨_, rfl, ?_, fun entry hentry => ?_⟩
  · rw [List.map_map]
    refine List.map_congr_left fun name _ => ?_
    dsimp only [Function.comp_apply, Node.propertyName?]
    split <;> rfl
  · obtain ⟨name, _, rfl⟩ := List.mem_map.mp hentry
    rfl

/-- What several models contribute together. -/
def ModelProps.ofModels (onComponent : Bool) (models : List Model) : ModelProps :=
  ⟨models.flatMap (Model.properties onComponent), models.flatMap (Model.listedNames onComponent),
    models.any Model.isComputed⟩

/-- The properties of more models come after those of the models before. -/
theorem ModelProps.ofModels_append (onComponent : Bool) (models models' : List Model) :
    ofModels onComponent (models ++ models') =
      (ofModels onComponent models).append (ofModels onComponent models') := by
  simp only [ofModels, append, List.flatMap_append, List.any_append]

/-- An assignment to a node writes to the expression inside its parentheses. -/
theorem Node.eq_unparen_of_assignTarget? {node target : Node}
    (h : node.assignTarget? = some target) : target = node.unparen := by
  unfold assignTarget? at h
  split at h
  · rename_i name hname
    cases h
    exact hname.symm
  · rename_i label parts hform
    split at h
    · cases h
      exact hform.symm
    · cases h
  · cases h

/-- The modifiers of a model are under its name and a suffix, or under a name of their own by
default. -/
theorem ModelName.modifiersKey_static (name : String) :
    (static name).modifiersKey =
      .str (if name = "modelValue" then "modelModifiers" else name ++ "Modifiers") := by
  rw [apply_ite Node.str]
  rfl

/-- What one model contributes. -/
theorem ModelProps.ofModel_eq (onComponent : Bool) (name : ModelName) (modifiers : Option NameSet)
    {value target : Node} (h : value.assignTarget? = some target) :
    ofModel onComponent name modifiers value target =
      ofModels onComponent [⟨value, name, modifiers.filter (!·.isEmpty)⟩] := by
  rw [Node.eq_unparen_of_assignTarget? h]
  cases name with
  | static text =>
    unfold ofModel ofModels
    cases onComponent with
    | false => rfl
    | true =>
      cases hm : modifiers.filter (!·.isEmpty) with
      | none => rfl
      | some modifiers =>
        simp only [ModelName.modifiersKey_static]
        rfl
  | dynamic expr =>
    unfold ofModel ofModels
    cases onComponent with
    | false => rfl
    | true => cases hm : modifiers.filter (!·.isEmpty) <;> rfl

/-- A model is the one at an index of three lists: it has the value of that index, the name that the
argument of that index gives, and the modifiers of that index unless there are none. -/
structure Model.IsAt (values args : List (Option Node)) (modifiers : List NameSet) (index : Nat)
    (m : Model) : Prop where
  value : values[index]? = some (some m.value)
  name : m.name.GivenBy args[index]?.join
  modifiers : m.modifiers = modifiers[index]?.filter (!·.isEmpty)

/-- A model keeps its data when one more comes in front, at the next index. -/
theorem Model.IsAt.cons {values args : List (Option Node)} {modifiers : List NameSet} {index : Nat}
    {m : Model} (h : m.IsAt values args.tail modifiers.tail index) (value : Option Node) :
    m.IsAt (value :: values) args modifiers (index + 1) := by
  obtain ⟨hvalue, hname, hmodifiers⟩ := h
  rw [List.getElem?_tail] at hname hmodifiers
  exact ⟨hvalue, hname, hmodifiers⟩

/-- Models that succeed contribute what there is at each index, from first to last. -/
theorem exists_models_of_modelPropsOf {onComponent : Bool} {fault : Fault}
    {values args : List (Option Node)} {modifiers : List NameSet} {props : ModelProps}
    (h : modelPropsOf onComponent fault values args modifiers = .ok props) :
    ∃ models : List Model, models.length = values.length ∧
      (∀ (index : Nat) (m : Model), models[index]? = some m → m.IsAt values args modifiers index) ∧
      props = .ofModels onComponent models := by
  induction values generalizing args modifiers props with
  | nil =>
    cases h
    exact ⟨[], rfl, fun _ _ hm => by simp at hm, rfl⟩
  | cons value values ih =>
    cases value with
    | none => cases h
    | some value =>
      unfold modelPropsOf at h
      dsimp only at h
      split at h
      · cases h
      · rename_i target htarget
        cases hrest : modelPropsOf onComponent fault values args.tail modifiers.tail with
        | error f =>
          rw [hrest] at h
          cases h
        | ok rest =>
          rw [hrest] at h
          cases h
          obtain ⟨models, hlength, hat, rfl⟩ := ih hrest
          refine ⟨⟨value, .ofArg args.head?.join, modifiers.head?.filter (!·.isEmpty)⟩ :: models,
            congrArg (· + 1) hlength, fun index m hm => ?_, ?_⟩
          · cases index with
            | zero =>
              cases hm
              refine ⟨rfl, ?_, ?_⟩
              · rw [← List.head?_eq_getElem?]
                exact ModelName.givenBy_ofArg _
              · rw [← List.head?_eq_getElem?]
            | succ index => exact (hat index m hm).cons _
          · rw [ModelProps.ofModel_eq onComponent _ _ htarget]
            exact (ModelProps.ofModels_append onComponent [_] models).symm

namespace ParsedDirective

/-- Every value of a model directive is paired with a handler that writes it back. If a directive
that was taken apart has models, there is one for each value: at each index the value, with the
name that the argument of that index gives and with the modifiers of that index unless there are
none. The properties are those of the models one after the other; on a component each has its value,
then its modifiers if there are any, one `true` for each, and then its handler, and elsewhere only
the handler. The listed names are the static keys of values and handlers, in order, and some key is
unknown exactly if some name has to be evaluated. The directive is at fault exactly if some value is
absent or cannot be assigned to. -/
theorem models_pair_values (d : ParsedDirective) (span : Span) :
    (∀ props, d.models span = .ok props →
      ∃ models : List Model, models.length = d.values.length ∧
        (∀ (index : Nat) (m : Model), models[index]? = some m →
          m.IsAt d.values d.args d.modifiers index) ∧
        props.props = models.flatMap (Model.properties d.tuple.isNone) ∧
        props.dynamicNames = models.flatMap (Model.listedNames d.tuple.isNone) ∧
        (props.hasDynamicKeys = true ↔ ∃ m ∈ models, ∃ name, m.name = .dynamic name)) ∧
    (∀ modifiers : NameSet, ∃ entries, modifiersObject modifiers = .objectOf entries ∧
      entries.map Node.propertyName? = modifiers.toList.map some ∧
      ∀ entry ∈ entries, entry.propertyValue = .bool true) ∧
    ((∃ fault, d.models span = .error fault) ↔
      ∃ value ∈ d.values, ∀ node ∈ value, ¬ node.Assignable) := by
  refine ⟨fun props h => ?_, exists_entries_modifiersObject, modelPropsOf_error_iff⟩
  obtain ⟨models, hlength, hat, rfl⟩ := exists_models_of_modelPropsOf h
  refine ⟨models, hlength, hat, rfl, rfl, ?_⟩
  have hcomputed (m : Model) : m.isComputed = true ↔ ∃ name, m.name = .dynamic name := by
    unfold Model.isComputed
    cases m.name <;> simp
  simp only [ModelProps.ofModels, List.any_eq_true, hcomputed]

/-- The directive `v-models={[[(x)], [y, "title", ["trim"]]]}` of a component, taken apart. -/
def sample : ParsedDirective where
  name := "models"
  values := [some (.paren .dummy (.ref "x")), some (.ref "y")]
  args := [none, some (.str "title")]
  modifiers := [.empty, .ofList ["trim"]]
  tuple := none

/-- The sample has two models, the second of them with its name and its modifiers. -/
theorem sample_models_pair_values :
    ∃ props, sample.models .dummy = .ok props ∧
      ∃ models : List Model, models.length = 2 ∧
        (∀ m, models[1]? = some m →
          m.IsAt sample.values [none, some (.str "title")] sample.modifiers 1) ∧
        props.props = models.flatMap (Model.properties true) ∧
        props.dynamicNames = ["modelValue", "onUpdate:modelValue", "title", "onUpdate:title"] := by
  obtain ⟨models, hlength, hat, hprops, -, -⟩ := (models_pair_values sample .dummy).1 _ rfl
  exact ⟨_, rfl, models, hlength, hat 1, hprops, rfl⟩

end ParsedDirective

end JsxVNode
