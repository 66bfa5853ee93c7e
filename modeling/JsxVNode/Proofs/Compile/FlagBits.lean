import JsxVNode.Proofs.Compile.Exchange
import JsxVNode.Proofs.Compile.Faults
import JsxVNode.Proofs.Compile.PropNames

/-!
# The bits of a patch flag

Which bits the flag of an element has, said about the element as it is written. The
attributes leave notes while they are sorted in. Each attribute gives the same notes
whatever stands before it, so a note is there in the end exactly if some attribute
gives it, and the flag does not depend on the order of the attributes.
-/

namespace JsxVNode

/-- Whether the value of an attribute is there and can change. Text is the same in every rendering,
and markup compiles to a call, which is not. -/
def AttrValue.canChange : AttrValue → Bool
  | .container _ body => !body.isConstant
  | .jsx _ => true
  | _ => false

namespace Node

/-- The argument that an entry of a directive lists: the second element, unless it is missing, is
spread or lists the modifiers. -/
def listedArgument? (elements : List Node) : Option Node :=
  (elementAt? elements 1).filter fun second => !second.isSpread && second.arrayElements?.isNone

/-- Whether an argument has to be evaluated to be known: it is neither `null` nor a string. -/
def isExpressionArgument : Node → Bool
  | .lit ⟨_, _, .null⟩ => false
  | arg => arg.string?.isNone

end Node

/-- The arguments that the value of a model directive lists, one for each entry. -/
def listedArguments (several : Bool) (value : Option Node) : List (Option Node) :=
  match value.bind Node.arrayElements?, several with
  | none, _ => []
  | some elements, false => [Node.listedArgument? elements]
  | some elements, true =>
    elements.map fun element => element.innerElements?.bind Node.listedArgument?

/-- The arguments of several values, which go by their index. -/
def argumentsOf : List (Option Node) → List (Option Node) → List (Option Node)
  | [], _ => []
  | _ :: values, args => args.head?.join :: argumentsOf values args.tail

/-- The argument of each value that a model directive binds. The argument in the name of the
directive comes before those that its value lists. -/
def bindingArguments (name : DirectiveName) (value : Option Node) : List (Option Node) :=
  argumentsOf (boundValues (name.name = "models") value)
    (name.argument.toList.map (some ∘ Node.str) ++ listedArguments (name.name = "models") value)

/-- Whether a directive binds a model. -/
def isModelDirective (directive : String) : Bool := directive == "model" || directive == "models"

namespace Attr

/-- Whether an attribute is a spread. -/
def isSpread : Attr → Bool
  | .named .. => false
  | .spread .. => true

/-- The directive that an attribute is, if it is one. -/
def directive? : Attr → Option DirectiveName
  | .named _ name _ => if isDirectiveName name.spelling then some (.ofAttr name) else none
  | .spread .. => none

/-- The expression that the value of an attribute stands for. -/
def expr? : Attr → Option Node
  | .named _ _ value => value.expr?
  | .spread .. => none

/-- Whether the value of an attribute can change and its name satisfies a condition. -/
def changes (p : String → Bool) : Attr → Bool
  | .named _ name value => value.canChange && p name.spelling
  | .spread .. => false

/-- Whether an attribute is a model that binds a value under a name that has to be evaluated. -/
def bindsExpression (attr : Attr) : Bool :=
  attr.directive?.any fun d =>
    isModelDirective d.name && (bindingArguments d attr.expr?).any (·.any Node.isExpressionArgument)

/-- Whether an attribute is a directive that sets properties. -/
def setsProperties (attr : Attr) : Bool :=
  attr.directive?.any fun d => propertyDirectives.contains d.name

/-- Whether an attribute is a directive that the runtime applies. -/
def isApplied (component : Bool) (attr : Attr) : Bool :=
  attr.directive?.any fun d =>
    !compileTimeDirectives.contains d.name || (d.name == "model" && !component)

end Attr

/-- Whether a property of this name is listed if it can change. A component compares its `class` and
`style` like any other property. -/
def isListedName (component : Bool) (name : String) : Bool :=
  !isDirectiveName name && !(["key", "ref", "on"].contains name) &&
    (component || !(["class", "style"].contains name))

namespace Child

/-- Whether a child is an expression or a spread, whose shape is known only when the program
runs. -/
def isExpression : Child → Bool
  | .container .. => true
  | .spread .. => true
  | _ => false

/-- Whether a child is displayed: text may vanish, and empty braces do. -/
def isDisplayed : Child → Bool
  | .text _ value _ => Text.flatten value ≠ ""
  | .empty .. => false
  | _ => true

end Child

/-- The flag with those bits whose conditions hold. -/
def PatchFlag.ofBits (bits : List (Bool × PatchFlag)) : PatchFlag :=
  bits.foldl (fun flag bit => if bit.1 then flag ||| bit.2 else flag) .none

section Conditions

variable (component : Bool) (attrs : List Attr)

/-- Some property has a name that is not known. -/
def hasUnknownNames : Bool := attrs.any fun attr => attr.isSpread || attr.bindsExpression

/-- The attribute of the given name can change on an element of the platform. -/
def hasBinding (name : String) : Bool :=
  !hasUnknownNames attrs && !component && attrs.any (·.changes (· == name))

/-- Some property is listed beside the flag. -/
def hasListedNames : Bool :=
  !hasUnknownNames attrs &&
    attrs.any fun attr => attr.setsProperties || attr.changes (isListedName component)

/-- Some handler on an element of the platform has to be attached to prerendered markup. Clicks are
attached anyway, and so are the updates of a model. -/
def hasHydrationEvents : Bool :=
  !hasUnknownNames attrs && !component && attrs.any (·.changes fun name =>
    isHandlerName name && !isClickName name && name != "onUpdate:modelValue")

/-- No property is compared, and the element has a reference or a directive. -/
def needsPatch : Bool :=
  !(hasUnknownNames attrs || hasBinding component attrs "class" ||
      hasBinding component attrs "style" || hasListedNames component attrs) &&
    (attrs.any (·.spelling? == some "ref") || attrs.any (·.isApplied component))

/-- The bits that the attributes of a tag call for, with their conditions. -/
def attributeBits : List (Bool × PatchFlag) :=
  [(hasUnknownNames attrs, .fullProps),
    (hasBinding component attrs "class", .classBinding),
    (hasBinding component attrs "style", .styleBinding),
    (hasListedNames component attrs, .props),
    (hasHydrationEvents component attrs, .hydrateEvents),
    (needsPatch component attrs, .needPatch)]

end Conditions

/-- What the attributes of an element can leave behind for its flag. -/
inductive PropsNote where
  | reference
  | classBinding
  | styleBinding
  | hydrationEvent
  | unknownNames
  | listedNames
  | directives

/-- Whether a note was left. -/
def PropsState.has (state : PropsState) : PropsNote → Bool
  | .reference => state.analysis.hasRef
  | .classBinding => state.analysis.hasClassBinding
  | .styleBinding => state.analysis.hasStyleBinding
  | .hydrationEvent => state.analysis.hasHydrationEvent
  | .unknownNames => state.analysis.hasDynamicKeys
  | .listedNames => !state.analysis.dynamicNames.isEmpty
  | .directives => !state.directives.isEmpty

/-- The notes that an attribute gives by its name, if its value can change or not. -/
def nameGives (component : Bool) (name : String) (canChange : Bool) : PropsNote → Bool
  | .reference => name == "ref"
  | .classBinding => canChange && !component && name == "class"
  | .styleBinding => canChange && !component && name == "style"
  | .hydrationEvent => canChange && !component && isHydrationEvent name
  | .listedNames => canChange && isListedName component name
  | _ => false

/-- The notes that a directive gives apart from its models. -/
def baseGives (component : Bool) (directive : String) : PropsNote → Bool
  | .listedNames => (contentProperty? directive).isSome
  | .directives =>
    !compileTimeDirectives.contains directive || (directive == "model" && !component)
  | _ => false

/-- The notes that models with the given arguments give. -/
def modelsGive (args : List (Option Node)) : PropsNote → Bool
  | .unknownNames => args.any (·.any Node.isExpressionArgument)
  | .listedNames => args.any (!·.any Node.isExpressionArgument)
  | _ => false

/-- The notes that a directive gives. -/
def directiveGives (component : Bool) (name : DirectiveName) (value : Option Node)
    (note : PropsNote) : Bool :=
  baseGives component name.name note ||
    isModelDirective name.name && modelsGive (bindingArguments name value) note

/-- The notes that an attribute gives. -/
def Attr.gives (component : Bool) (attr : Attr) (note : PropsNote) : Bool :=
  match attr with
  | .named _ name value =>
    nameGives component name.spelling value.canChange note ||
      isDirectiveName name.spelling && directiveGives component (.ofAttr name) value.expr? note
  | .spread .. =>
    match note with
    | .unknownNames => true
    | _ => false

/-- A name that has no note of its own is listed, with a few exceptions. -/
theorem isListedName_eq {component : Bool} {name : String} (hr : name ≠ "ref")
    (hc : ¬ (name = "class" ∧ (!component) = true))
    (hs : ¬ (name = "style" ∧ (!component) = true)) :
    isListedName component name =
      !decide (name = "key" ∨ name = "on" ∨ isDirectiveName name = true) := by
  cases component with
  | false =>
    simp only [Bool.not_false, and_true] at hc hs
    simp [isListedName, hr, hc, hs, Bool.and_comm, Bool.and_assoc]
  | true => simp [isListedName, hr, Bool.and_comm, Bool.and_assoc]

namespace PropsState

variable (state : PropsState) (note : PropsNote)

theorem has_extend (properties : List Node) :
    (state.extend properties).has note = state.has note := by
  cases note <;> rfl

/-- Listing names leaves the note that names are listed, if there are any. -/
theorem has_noteNames (names : List String) :
    (state.noteNames names).has note =
      (state.has note || match note with
        | .listedNames => !names.isEmpty
        | _ => false) := by
  cases note with
  | listedNames => simp [has, noteNames, NameSet.isEmpty_insertAll]
  | _ => simp [has, noteNames]

/-- What is noted about an attribute that can change. -/
theorem has_noteDynamic (name : String) (component : Bool) :
    { state with analysis := state.analysis.noteDynamic name component }.has note =
      (state.has note || nameGives component name true note) := by
  unfold PropsAnalysis.noteDynamic
  dsimp only
  by_cases hr : name = "ref"
  · subst hr
    have hlisted : isListedName component "ref" = false := by cases component <;> decide
    have hevent : isHydrationEvent "ref" = false := by decide
    cases note <;> simp [has, nameGives, hlisted, hevent]
  rw [if_neg hr]
  by_cases hc : name = "class" ∧ (!component) = true
  · obtain ⟨rfl, hcomponent⟩ := hc
    rw [Bool.not_eq_true'] at hcomponent
    have hlisted : isListedName false "class" = false := by decide
    have hevent : isHydrationEvent "class" = false := by decide
    cases note <;> simp [has, nameGives, hlisted, hevent, hcomponent]
  rw [if_neg hc]
  by_cases hs : name = "style" ∧ (!component) = true
  · obtain ⟨rfl, hcomponent⟩ := hs
    rw [Bool.not_eq_true'] at hcomponent
    have hlisted : isListedName false "style" = false := by decide
    have hevent : isHydrationEvent "style" = false := by decide
    cases note <;> simp [has, nameGives, hlisted, hevent, hcomponent]
  rw [if_neg hs]
  -- The name is none of those that have a note of their own.
  have hclass : (!component && name == "class") = false := by
    simpa [and_comm] using hc
  have hstyle : (!component && name == "style") = false := by
    simpa [and_comm] using hs
  have hlisted := isListedName_eq hr hc hs
  by_cases hother : name = "key" ∨ name = "on" ∨ isDirectiveName name = true
  · rw [if_pos hother]
    rw [decide_eq_true hother] at hlisted
    cases note <;> simp only [has, nameGives, hlisted, hclass, hstyle, Bool.true_and] <;> simp [hr]
  · rw [if_neg hother]
    rw [decide_eq_false hother] at hlisted
    cases note <;> simp only [has, nameGives, hlisted, hclass, hstyle, Bool.true_and] <;>
      simp [hr, NameSet.isEmpty_insert]

/-- An attribute leaves the notes of its name, and most of them only if its value can change. -/
theorem has_noteAttr (name : String) (value : Option Node) (component : Bool) :
    (state.noteAttr name value component).has note =
      (state.has note || nameGives component name (value.any (!·.isConstant)) note) := by
  unfold noteAttr
  cases hv : value.any (!·.isConstant) with
  | true => rw [Bool.or_true, if_pos rfl, has_noteDynamic]
  | false =>
    rw [Bool.or_false]
    by_cases hr : name = "ref"
    · -- A reference is noted whatever its value is.
      subst hr
      rw [if_pos (beq_self_eq_true _), has_noteDynamic]
      cases note <;> simp [nameGives, isListedName, isHydrationEvent, isHandlerName]
    · rw [if_neg (by simpa using hr)]
      cases note <;> simp [nameGives, hr]

end PropsState

/-- An argument that has to be evaluated gives a dynamic name, and any other a static one. -/
theorem ModelName.ofArg_eq (arg : Option Node) :
    (arg.any Node.isExpressionArgument = true ∧ ∃ name, ofArg arg = .dynamic name) ∨
      (arg.any Node.isExpressionArgument = false ∧ ∃ name, ofArg arg = .static name) := by
  cases arg with
  | none => exact Or.inr ⟨rfl, _, rfl⟩
  | some arg =>
    rw [Option.any_some]
    unfold ofArg
    dsimp only
    split
    · exact Or.inr ⟨rfl, _, rfl⟩
    · rename_i hnull
      rw [Node.isExpressionArgument]
      · cases arg.string? with
        | none => exact Or.inl ⟨rfl, _, rfl⟩
        | some name => exact Or.inr ⟨rfl, _, rfl⟩
      · exact hnull

/-- What the models of a directive note depends on their arguments. -/
theorem notes_modelPropsOf {onComponent : Bool} {fault : Fault} {values args : List (Option Node)}
    {modifiers : List NameSet} {models : ModelProps}
    (h : modelPropsOf onComponent fault values args modifiers = .ok models) :
    models.hasDynamicKeys = (argumentsOf values args).any (·.any Node.isExpressionArgument) ∧
      (!models.dynamicNames.isEmpty) =
        (argumentsOf values args).any (!·.any Node.isExpressionArgument) := by
  induction values generalizing args modifiers models with
  | nil =>
    cases h
    exact ⟨rfl, rfl⟩
  | cons value values ih =>
    unfold modelPropsOf at h
    split at h
    · cases h
    · split at h
      · cases h
      · cases hr : modelPropsOf onComponent fault values args.tail modifiers.tail with
        | error f =>
          rw [hr] at h
          cases h
        | ok rest =>
          rw [hr] at h
          cases h
          obtain ⟨hkeys, hnames⟩ := ih hr
          rw [argumentsOf, List.any_cons, List.any_cons, ← hkeys, ← hnames]
          rcases ModelName.ofArg_eq args.head?.join with ⟨harg, name, hname⟩ | ⟨harg, name, hname⟩
          · rw [hname, harg]
            exact ⟨rfl, rfl⟩
          · rw [hname, harg]
            simp [ModelProps.ofModel, ModelProps.append]

/-- A model directive binds at least one value. -/
theorem bindingArguments_ne_nil (name : DirectiveName) (value : Option Node) :
    bindingArguments name value ≠ [] := by
  have hvalues : boundValues (name.name = "models") value ≠ [] := by
    unfold boundValues
    split <;> simp_all
  unfold bindingArguments
  cases hbound : boundValues (name.name = "models") value with
  | nil => exact absurd hbound hvalues
  | cons first rest => exact List.cons_ne_nil _ _

/-- An entry has the argument it lists, or keeps a place for it. -/
theorem DirectiveEntry.args_ofElements (keepPlace : Bool) (modifiers : NameSet)
    (elements : List Node) :
    (DirectiveEntry.ofElements keepPlace modifiers elements).args =
      match Node.listedArgument? elements with
      | some arg => [some arg]
      | none => if keepPlace then [none] else [] := by
  unfold DirectiveEntry.ofElements Node.listedArgument? Node.arrayElements?
  cases Node.elementAt? elements 1 with
  | none => rfl
  | some second =>
    rw [Option.filter_some]
    dsimp only
    by_cases hs : second.isSpread = true
    · rw [if_pos hs, hs, Bool.not_true, Bool.false_and, if_neg Bool.false_ne_true]
    · rw [if_neg hs, Bool.eq_false_iff.mpr hs, Bool.not_false, Bool.true_and]
      cases second.unparen.elements? with
      | none => rfl
      | some listed => rfl

/-- The first argument of an entry is the one that its array lists. -/
theorem head?_args_ofElements (keepPlace : Bool) (modifiers : NameSet) (elements : List Node) :
    (DirectiveEntry.ofElements keepPlace modifiers elements).args.head?.join =
      Node.listedArgument? elements := by
  rw [DirectiveEntry.args_ofElements]
  cases Node.listedArgument? elements with
  | none => cases keepPlace <;> rfl
  | some arg => rfl

/-- Several entries that keep their places have one argument each. -/
theorem flatMap_args_ofElements (modifiers : NameSet) (entries : List (List Node)) :
    (entries.map (DirectiveEntry.ofElements true modifiers)).flatMap (·.args) =
      entries.map Node.listedArgument? := by
  have hone (elements : List Node) :
      (DirectiveEntry.ofElements true modifiers elements).args =
        [Node.listedArgument? elements] := by
    rw [DirectiveEntry.args_ofElements]
    cases Node.listedArgument? elements <;> rfl
  rw [List.flatMap_map, List.map_eq_flatMap]
  simp only [hone]

/-- A single value takes the first argument. -/
theorem argumentsOf_singleton (value : Option Node) (args : List (Option Node)) :
    argumentsOf [value] args = [args.head?.join] := rfl

/-- What comes after other arguments matters only if there are none. -/
theorem head?_append_congr {first second second' : List (Option Node)}
    (h : second.head?.join = second'.head?.join) :
    (first ++ second).head?.join = (first ++ second').head?.join := by
  cases first with
  | nil => exact h
  | cons arg first => rfl

/-- The arguments of a model directive that was taken apart are those of its bindings. -/
theorem argumentsOf_ofEntries {name : DirectiveName} {keepPlace : Bool} {value : Option Node}
    {fault : Fault} {entries : List DirectiveEntry}
    (h : directiveEntries name keepPlace value fault = .ok entries)
    (hplace : name.name = "models" → keepPlace = true) :
    argumentsOf (ParsedDirective.ofEntries name value entries).values
        (ParsedDirective.ofEntries name value entries).args =
      bindingArguments name value := by
  rw [values_ofEntries h]
  rw [directiveEntries_eq] at h
  unfold bindingArguments boundValues listedArguments ParsedDirective.ofEntries
  cases ha : value.bind Node.arrayElements? with
  | none =>
    rw [ha] at h
    cases h
    dsimp only
    rw [argumentsOf_singleton, argumentsOf_singleton]
    refine congrArg ([·]) (head?_append_congr ?_)
    rw [List.flatMap_singleton]
    split <;> rfl
  | some elements =>
    rw [ha] at h
    dsimp only at h ⊢
    by_cases hn : name.name = "models"
    · rw [if_pos hn] at h
      rw [decide_eq_true hn]
      split at h
      · rename_i inner hi
        cases h
        rw [hplace hn, flatMap_args_ofElements, map_of_nestedElements? Node.listedArgument? hi]
      · cases h
    · rw [if_neg hn] at h
      rw [decide_eq_false hn]
      cases h
      dsimp only
      rw [argumentsOf_singleton, argumentsOf_singleton, List.flatMap_singleton]
      exact congrArg ([·]) (head?_append_congr (head?_args_ofElements _ _ _))

/-- What a flag has to know of a directive that was taken apart. -/
structure ParsedDirective.Reads (parsed : ParsedDirective) (directive : DirectiveName)
    (value : Option Node) (component : Bool) : Prop where
  name : parsed.name = directive.name
  tuple : parsed.tuple.isSome = baseGives component directive.name .directives
  arguments : argumentsOf parsed.values parsed.args = bindingArguments directive value

/-- Taking a directive apart finds the name, the tuple and the arguments that can be read off the
attribute. -/
theorem Compile.reads_parseDirective (span : Span) (name : AttrName) (attrValue : AttrValue)
    (value : Option Node) (tag : ResolvedTag) (attrs : List Attr) :
    Yields (parseDirective span name attrValue value tag attrs) fun parsed =>
      parsed.Reads (.ofAttr name) value tag.isComponent := by
  intro s parsed s' h
  obtain ⟨entries, he, hp⟩ := returns_parseDirective h
  have harguments := argumentsOf_ofEntries he (by
    intro hn
    rw [hn]
    rfl)
  rcases hp with ⟨hruntime, _, rfl⟩ | ⟨hruntime, _, _, rfl⟩
  · exact ⟨rfl, hruntime.symm, harguments⟩
  · exact ⟨rfl, hruntime.symm, harguments⟩

/-- A directive for content is not applied by the runtime. -/
theorem contentProperty?_of_baseGives {component : Bool} {directive : String}
    (h : baseGives component directive .directives = true) : contentProperty? directive = none := by
  unfold contentProperty?
  by_cases hhtml : directive = "html"
  · subst hhtml
    cases h
  · by_cases htext : directive = "text"
    · subst htext
      cases h
    · rw [if_neg hhtml, if_neg htext]

namespace PropsState

variable (state : PropsState) (note : PropsNote) {parsed : ParsedDirective}
  {directive : DirectiveName} {value : Option Node} {component : Bool}

/-- A directive leaves the notes of its name. -/
theorem has_addParsed (h : parsed.Reads directive value component) :
    (state.addParsed parsed value).has note =
      (state.has note || baseGives component directive.name note) := by
  have htuple := h.tuple
  unfold addParsed
  rw [h.name]
  split
  · rename_i tuple hsome
    rw [hsome, Option.isSome_some] at htuple
    have hcontent := contentProperty?_of_baseGives htuple.symm
    cases note with
    | directives => simp [has, ← htuple]
    | _ => simp [has, baseGives, hcontent]
  · rename_i hnone
    rw [hnone, Option.isSome_none] at htuple
    split
    · rename_i property hcontent
      rw [has_noteNames, has_extend]
      cases note with
      | directives => simp [← htuple]
      | _ => simp [baseGives, hcontent]
    · rename_i hcontent
      cases note with
      | directives => simp [← htuple]
      | _ => simp [baseGives, hcontent]

/-- Models leave the notes of their arguments. -/
theorem has_addModels (h : parsed.Reads directive value component) {span : Span}
    {models : ModelProps} (hm : parsed.models span = .ok models) :
    (state.addModels models).has note =
      (state.has note || modelsGive (bindingArguments directive value) note) := by
  obtain ⟨hkeys, hlisted⟩ := notes_modelPropsOf hm
  rw [h.arguments] at hkeys hlisted
  have hnames := has_noteNames (state.extend models.props) note models.dynamicNames
  rw [has_extend] at hnames
  cases note with
  | unknownNames => exact congrArg (state.analysis.hasDynamicKeys || ·) hkeys
  | listedNames => exact hnames.trans (congrArg (state.has .listedNames || ·) hlisted)
  | _ => exact hnames

end PropsState

namespace Compile

/-- A directive gives its notes. -/
theorem has_applyDirective (span : Span) (name : AttrName) (attrValue : AttrValue)
    (value : Option Node) (tag : ResolvedTag) (attrs : List Attr) (state : PropsState)
    (note : PropsNote) :
    Yields (applyDirective span name attrValue value tag attrs state) fun state' =>
      state'.has note =
        (state.has note || directiveGives tag.isComponent (.ofAttr name) value note) := by
  rw [applyDirective_eq]
  refine Yields.bind (reads_parseDirective _ _ _ _ _ _) fun parsed hreads => ?_
  have hmodel : parsed.isModel = isModelDirective (DirectiveName.ofAttr name).name := by
    rw [ParsedDirective.isModel, hreads.name]
    rfl
  unfold directiveGives
  split
  · rename_i hslots
    rw [hreads.name] at hslots
    rw [hslots]
    refine yields_pure ?_
    cases note <;> simp [PropsState.has, baseGives, isModelDirective, contentProperty?,
      compileTimeDirectives]
  · split
    · rename_i hm
      refine Yields.bind (yields_ofExcept fun models hmodels => hmodels) fun models hmodels => ?_
      rw [← hmodel, hm]
      refine yields_pure ?_
      rw [PropsState.has_addModels _ _ hreads hmodels, PropsState.has_addParsed _ _ hreads,
        Bool.true_and, Bool.or_assoc]
    · rename_i hm
      rw [← hmodel, Bool.eq_false_iff.mpr hm, Bool.false_and, Bool.or_false]
      exact yields_pure (PropsState.has_addParsed _ _ hreads)

end Compile

open Compile

/-- What a flag has to know of a compiled value can be read off the value. -/
theorem AttrValue.reads_compile (ctx : Context) (value : AttrValue) :
    Yields (value.compile ctx) fun compiled =>
      compiled.any (!·.isConstant) = value.canChange ∧
        ∀ directive, bindingArguments directive compiled =
          bindingArguments directive value.expr? := by
  cases value with
  | bare => exact yields_pure ⟨rfl, fun _ => rfl⟩
  | lit value =>
    refine yields_pure ?_
    cases value.string? with
    | none => exact ⟨rfl, fun _ => rfl⟩
    | some text => exact ⟨rfl, fun _ => rfl⟩
  | container span body => exact yields_pure ⟨rfl, fun _ => rfl⟩
  | empty span inner => exact yields_pure ⟨rfl, fun _ => rfl⟩
  | jsx markup =>
    have hcall : Yields (markup.compile ctx) fun node => node.isConstant = false ∧
        ∀ directive, bindingArguments directive (some node) =
          bindingArguments directive (some (.jsx markup)) :=
      compile_yields_invoke (fun _ _ => ⟨rfl, fun _ => rfl⟩) ctx markup
    refine hcall.bind fun node hnode => yields_pure ⟨?_, hnode.2⟩
    rw [Option.any_some, hnode.1]
    rfl

/-- An attribute gives the same notes after all others. -/
theorem Attr.has_compile (ctx : Context) (tag : ResolvedTag) (all : List Attr) (state : PropsState)
    (attr : Attr) (note : PropsNote) :
    Yields (attr.compile ctx tag all state) fun state' =>
      state'.has note = (state.has note || attr.gives tag.isComponent note) := by
  cases attr with
  | spread dots operand =>
    refine yields_pure ?_
    cases note <;> simp [PropsState.addSpread, PropsState.has, Attr.gives]
  | named span name attrValue =>
    refine (attrValue.reads_compile ctx).bind fun value hvalue => ?_
    have hnoted := state.has_noteAttr note name.spelling value tag.isComponent
    rw [hvalue.1] at hnoted
    rw [applyAttr_eq]
    dsimp only [Attr.gives]
    split
    · rename_i hexpanded
      have hplain : isDirectiveName name.spelling = false := by
        rcases hexpanded.2 with hname | hname
        · rw [hname]
          decide
        · rw [hname]
          decide
      refine yields_bind_of_forall fun expand => yields_pure ?_
      rw [hplain, Bool.false_and, Bool.or_false, ← hnoted]
      cases note <;> rfl
    · split
      · rename_i hdirective
        intro s state' s' h
        have hgiven := has_applyDirective _ _ _ _ _ _ _ note _ _ _ h
        rw [hnoted, directiveGives, hvalue.2, Bool.or_assoc] at hgiven
        rw [hdirective, Bool.true_and]
        exact hgiven
      · rename_i hplain
        refine yields_pure ?_
        rw [PropsState.has_extend, hnoted, Bool.eq_false_iff.mpr hplain, Bool.false_and,
          Bool.or_false]

/-- A note is there in the end if some attribute gives it. -/
theorem Attr.has_compileAll (ctx : Context) (tag : ResolvedTag) (all : List Attr)
    (state : PropsState) (attrs : List Attr) (note : PropsNote) :
    Yields (Attr.compileAll ctx tag all state attrs) fun state' =>
      state'.has note = (state.has note || attrs.any (·.gives tag.isComponent note)) := by
  induction attrs generalizing state with
  | nil => exact yields_pure (Bool.or_false _).symm
  | cons attr attrs ih =>
    refine (Attr.has_compile ctx tag all state attr note).bind fun next hnext => ?_
    rw [List.any_cons, ← Bool.or_assoc, ← hnext]
    exact ih next

/-- What a flag has to know of a compiled child. -/
theorem Child.counts_compile (ctx : Context) (child : Child) :
    Yields (child.compile ctx) fun compiled =>
      compiled.items.length = (if child.isDisplayed then 1 else 0) ∧
        compiled.unanalyzable = child.isExpression := by
  cases child with
  | text span value raw =>
    refine yields_pure ?_
    unfold Children.ofText Child.isDisplayed
    by_cases htext : Text.flatten value = ""
    · simp [htext, Children.empty, Child.isExpression]
    · simp [htext, Child.isExpression]
  | container span body => exact yields_pure ⟨rfl, rfl⟩
  | empty span inner => exact yields_pure ⟨rfl, rfl⟩
  | spread span operand => exact yields_pure ⟨rfl, rfl⟩
  | jsx markup => exact yields_bind_of_forall fun _ => yields_pure ⟨rfl, rfl⟩

/-- Children compile to as many items as are displayed, and are unanalyzable if one is an
expression. -/
theorem Child.counts_compileAll (ctx : Context) (children : List Child) :
    Yields (Child.compileAll ctx children) fun compiled =>
      compiled.items.length = children.countP Child.isDisplayed ∧
        compiled.unanalyzable = children.any Child.isExpression := by
  induction children with
  | nil => exact yields_pure ⟨rfl, rfl⟩
  | cons child children ih =>
    refine (Child.counts_compile ctx child).bind fun first hfirst => ?_
    refine ih.bind fun rest hrest => yields_pure ⟨?_, ?_⟩
    · rw [List.countP_cons, Children.append, List.length_append, hfirst.1, hrest.1, Nat.add_comm]
    · rw [List.any_cons, Children.append, hfirst.2, hrest.2]

/-!
# The bits of an emitted flag

The flag of an element joins the bits that its notes call for. Whether a bit is there
can then be told from the notes alone, and the notes from the attributes as they are
written, so each bit has a condition that does not mention the compiler.
-/

/-- The last of several bits is joined to the union of those before it. -/
theorem PatchFlag.ofBits_concat (bits : List (Bool × PatchFlag)) (bit : Bool × PatchFlag) :
    ofBits (bits ++ [bit]) = if bit.1 then ofBits bits ||| bit.2 else ofBits bits := by
  rw [ofBits, List.foldl_append]
  rfl

/-- The bits of the flag of an analysis. -/
theorem PropsAnalysis.patchFlag_eq (a : PropsAnalysis) (directives : Nat) :
    a.patchFlag directives = .ofBits
      [(a.hasDynamicKeys, .fullProps),
        (!a.hasDynamicKeys && a.hasClassBinding, .classBinding),
        (!a.hasDynamicKeys && a.hasStyleBinding, .styleBinding),
        (!a.hasDynamicKeys && !a.dynamicNames.isEmpty, .props),
        (!a.hasDynamicKeys && a.hasHydrationEvent, .hydrateEvents),
        (!(a.hasDynamicKeys || a.hasClassBinding || a.hasStyleBinding ||
          !a.dynamicNames.isEmpty) && (a.hasRef || decide (directives > 0)), .needPatch)] := by
  unfold patchFlag propsFlag
  generalize a.hasDynamicKeys = keys, a.hasClassBinding = classes, a.hasStyleBinding = styles,
    a.dynamicNames.isEmpty = none, a.hasHydrationEvent = events,
    (a.hasRef || decide (directives > 0)) = visited
  cases keys with
  | true => rfl
  | false =>
    cases classes <;> cases styles <;> cases none <;> cases events <;> cases visited <;> rfl

/-- The flag of an element in terms of the flag of its attributes and of its children. -/
theorem elementFlag_eq (tag : ResolvedTag) (children : Children) (props : ElementProps) :
    elementFlag tag children props =
      if tag.isFragment && children.unanalyzable then .bail
      else if tag.isFragment && decide (1 < children.items.length) then
        props.analysis.patchFlag props.directives.length ||| .stableFragment
      else props.analysis.patchFlag props.directives.length := by
  have hnone (flag : PatchFlag) : flag ||| .none = flag := congrArg PatchFlag.mk BitVec.or_zero
  unfold elementFlag PatchFlag.ofFragment
  cases tag.isFragment with
  | false => rfl
  | true =>
    cases children.unanalyzable with
    | true => rfl
    | false =>
      by_cases hcount : 1 < children.items.length
      · simp [hcount, show PatchFlag.stableFragment ≠ .bail by decide]
      · simp [hcount, hnone, show PatchFlag.none ≠ .bail by decide]

/-- The flag of an element is that of a full comparison, or it has the bits that its attributes and
its children call for; none of those for single properties if some name is unknown. -/
theorem elementFlag_eq_ofBits (tag : ResolvedTag) (children : Children) (props : ElementProps) :
    elementFlag tag children props = .bail ∨ ∃ classes styles events visited stable,
      elementFlag tag children props = .ofBits
        [(props.analysis.hasDynamicKeys, .fullProps),
          (!props.analysis.hasDynamicKeys && classes, .classBinding),
          (!props.analysis.hasDynamicKeys && styles, .styleBinding),
          (!props.analysis.hasDynamicKeys && !props.analysis.dynamicNames.isEmpty, .props),
          (!props.analysis.hasDynamicKeys && events, .hydrateEvents),
          (!props.analysis.hasDynamicKeys && visited, .needPatch),
          (stable, .stableFragment)] := by
  rw [elementFlag_eq, PropsAnalysis.patchFlag_eq, Bool.or_assoc, Bool.or_assoc, Bool.not_or,
    Bool.and_assoc]
  split
  · exact Or.inl rfl
  · split
    · exact Or.inr ⟨_, _, _, _, true, rfl⟩
    · exact Or.inr ⟨_, _, _, _, false, rfl⟩

namespace Attr

variable (component : Bool) (attr : Attr)

/-- Most notes depend only on the readings of an attribute. -/
theorem gives_eq :
    attr.gives component .reference = (attr.spelling? == some "ref") ∧
      attr.gives component .classBinding = (!component && attr.changes (· == "class")) ∧
      attr.gives component .styleBinding = (!component && attr.changes (· == "style")) ∧
      attr.gives component .hydrationEvent = (!component && attr.changes isHydrationEvent) ∧
      attr.gives component .directives = attr.isApplied component ∧
      attr.gives component .unknownNames = (attr.isSpread || attr.bindsExpression) := by
  cases attr with
  | named span name value =>
    cases hd : isDirectiveName name.spelling with
    | false =>
      simp [gives, nameGives, spelling?, changes, isApplied, isSpread, bindsExpression, directive?,
        hd, Bool.and_left_comm, Bool.and_assoc]
    | true =>
      simp [gives, nameGives, directiveGives, baseGives, modelsGive, spelling?, changes, isApplied,
        isSpread, bindsExpression, directive?, expr?, hd, Bool.and_left_comm, Bool.and_assoc]
  | spread dots operand => simp [gives, spelling?, changes, isApplied, isSpread, directive?]

/-- The directives that set properties are those for content and models. -/
theorem contains_propertyDirectives (directive : String) :
    propertyDirectives.contains directive =
      ((contentProperty? directive).isSome || isModelDirective directive) := by
  unfold contentProperty? isModelDirective propertyDirectives
  by_cases hhtml : directive = "html"
  · simp [hhtml]
  · by_cases htext : directive = "text"
    · simp [htext]
    · simp [hhtml, htext, beq_eq_decide]

/-- A directive that sets properties lists their names unless it has to evaluate them. -/
theorem directiveGives_listedNames {directive : DirectiveName} {value : Option Node}
    (h : directiveGives component directive value .unknownNames = false) :
    directiveGives component directive value .listedNames =
      propertyDirectives.contains directive.name := by
  rw [contains_propertyDirectives]
  unfold directiveGives baseGives modelsGive at h ⊢
  cases hm : isModelDirective directive.name with
  | false => rw [Bool.false_and]
  | true =>
    rw [hm, Bool.true_and, Bool.false_or] at h
    obtain ⟨arg, harg⟩ := List.exists_mem_of_ne_nil _ (bindingArguments_ne_nil directive value)
    have hstatic : (bindingArguments directive value).any
        (!·.any Node.isExpressionArgument) = true := by
      refine List.any_eq_true.mpr ⟨arg, harg, ?_⟩
      rw [Bool.not_eq_true', ← Bool.not_eq_true]
      exact List.any_eq_false.mp h arg harg
    rw [hstatic]
    rfl

/-- Without unknown names, a directive that sets properties lists names. -/
theorem gives_listedNames (h : attr.gives component .unknownNames = false) :
    attr.gives component .listedNames =
      (attr.setsProperties || attr.changes (isListedName component)) := by
  cases attr with
  | named span name value =>
    cases hd : isDirectiveName name.spelling with
    | false => simp [gives, nameGives, setsProperties, directive?, changes, hd]
    | true =>
      have hunknown : directiveGives component (.ofAttr name) value.expr? .unknownNames =
          false := by
        simpa [gives, nameGives, hd] using h
      have hlisted : isListedName component name.spelling = false := by
        simp [isListedName, hd]
      simp [gives, nameGives, setsProperties, directive?, changes, hd, hlisted,
        directiveGives_listedNames component hunknown]
  | spread dots operand => cases h

end Attr

/-- Without unknown names, the names of attributes and directives are listed. -/
theorem any_gives_listedNames {component : Bool} {attrs : List Attr}
    (h : hasUnknownNames attrs = false) :
    attrs.any (·.gives component .listedNames) =
      attrs.any fun attr => attr.setsProperties || attr.changes (isListedName component) := by
  rw [Bool.eq_iff_iff, List.any_eq_true, List.any_eq_true]
  refine exists_congr fun attr => and_congr_right fun hattr => ?_
  have hunknown : attr.gives component .unknownNames = false := by
    obtain ⟨_, _, _, _, _, hgives⟩ := Attr.gives_eq component attr
    rw [hgives, ← Bool.not_eq_true]
    exact List.any_eq_false.mp h attr hattr
  rw [Attr.gives_listedNames component attr hunknown]

/-- The attributes of an element call for their bits. -/
theorem PropsState.patchFlag_eq {state : PropsState} {component : Bool} {attrs : List Attr}
    (h : ∀ note, state.has note = attrs.any (·.gives component note)) :
    state.analysis.patchFlag state.directives.length = .ofBits (attributeBits component attrs) := by
  have hunknown := h .unknownNames
  have hclass := h .classBinding
  have hstyle := h .styleBinding
  have hevent := h .hydrationEvent
  have hreference := h .reference
  have hdirectives := h .directives
  simp only [has, Attr.gives_eq,
    ← List.and_any_distrib_left] at hunknown hclass hstyle hevent hreference hdirectives
  have hcount : decide (state.directives.length > 0) = !state.directives.isEmpty := by
    cases state.directives <;> rfl
  rw [PropsAnalysis.patchFlag_eq, attributeBits, hcount, hunknown, hclass, hstyle, hevent,
    hreference, hdirectives]
  unfold needsPatch hasBinding hasListedNames hasHydrationEvents
  cases hnames : hasUnknownNames attrs with
  | true =>
    rw [hasUnknownNames] at hnames
    rw [hnames]
    rfl
  | false =>
    have hlisted := (h .listedNames).trans (any_gives_listedNames hnames)
    rw [has] at hlisted
    rw [hasUnknownNames] at hnames
    rw [hnames, hlisted]
    simp only [Bool.not_false, Bool.true_and, Bool.false_or]
    rfl

/-- The flag of an element is made of the bits that its attributes call for and the one that its
children call for. -/
theorem Jsx.constructionFlag_compile {ctx : Context} {span : Span} {opening : Opening}
    {attrs : List Attr} {children : List Child} {closing : Option Closing} {s s' : Session}
    {node : Node}
    (h : Returns ((Jsx.element span opening attrs children closing).compile ctx) s node s') :
    node.constructionFlag =
      if opening.name.isFragment && children.any Child.isExpression then .bail
      else .ofBits (attributeBits (opening.name.isComponent ctx.options) attrs ++
        [(opening.name.isFragment && decide (1 < children.countP Child.isDisplayed),
          .stableFragment)]) := by
  obtain ⟨tag, s₁, htag, h⟩ := returns_bind_iff.mp h
  obtain ⟨items, s₂, hitems, h⟩ := returns_bind_iff.mp h
  obtain ⟨state, s₃, hstate, h⟩ := returns_bind_iff.mp h
  obtain ⟨props, s₄, hprops, h⟩ := returns_bind_iff.mp h
  obtain ⟨argument, place, hargs⟩ := args_finishElement ctx span tag items props _ _ _ h
  have hcomponent := isComponent_resolveTag ctx opening.name _ _ _ htag
  have hfragment := isFragment_resolveTag ctx opening.name _ _ _ htag
  obtain ⟨hcount, hexpression⟩ := Child.counts_compileAll ctx children _ _ _ hitems
  have hflag : state.analysis.patchFlag state.directives.length =
      .ofBits (attributeBits (opening.name.isComponent ctx.options) attrs) := by
    refine PropsState.patchFlag_eq fun note => ?_
    rw [Attr.has_compileAll ctx tag attrs _ attrs note _ _ _ hstate, hcomponent]
    cases note <;> rfl
  obtain ⟨rfl, _⟩ := returns_finishProps_iff.mp hprops
  rw [Node.constructionFlag_of_args hargs, elementFlag_eq, hflag, hfragment, hcount, hexpression,
    PatchFlag.ofBits_concat]

/-- What the attributes say of the bits does not depend on their order. -/
theorem attributeBits_of_perm {component : Bool} {attrs attrs' : List Attr}
    (h : attrs.Perm attrs') : attributeBits component attrs = attributeBits component attrs' := by
  simp only [attributeBits, needsPatch, hasBinding, hasListedNames, hasHydrationEvents,
    hasUnknownNames, h.any_eq]

theorem Attr.partsAll_eq_flatMap (attrs : List Attr) :
    Attr.partsAll attrs = attrs.flatMap Attr.parts := by
  induction attrs with
  | nil => rfl
  | cons attr attrs ih => rw [Attr.partsAll, List.flatMap_cons, ih]

/-- Whether an element is faulty does not depend on the order of its attributes. -/
theorem Jsx.fails_compile_of_perm {ctx : Context} {span : Span} {opening : Opening}
    {attrs attrs' : List Attr} {children : List Child} {closing : Option Closing} {s : Session}
    (hp : attrs.Perm attrs')
    (h : Fails ((Jsx.element span opening attrs' children closing).compile ctx) s) :
    Fails ((Jsx.element span opening attrs children closing).compile ctx) s := by
  rw [Jsx.fails_compile_iff, Jsx.parts, List.exists_mem_cons_iff, Jsx.faulty_element_iff] at h ⊢
  simpa only [Attr.partsAll_eq_flatMap, List.mem_append, List.mem_flatMap, hp.mem_iff] using h

/-- Every bit of the flag of an element can be read off the element. Let an element compile to a
call. If its tag is a fragment and some child is an expression or a spread, the flag is that of a
full comparison. Otherwise it has exactly the bits whose conditions hold: those that the attributes
call for, and the bit of a fragment with more than one child. With its attributes in another order
the element compiles too, and has the same flag. -/
theorem Jsx.compile_sets_bits (ctx : Context) (span : Span) (opening : Opening)
    (attrs : List Attr) (children : List Child) (closing : Option Closing) (s s' : Session)
    (node : Node)
    (h : Returns ((Jsx.element span opening attrs children closing).compile ctx) s node s') :
    (node.constructionFlag =
      if opening.name.isFragment && children.any Child.isExpression then .bail
      else .ofBits (attributeBits (opening.name.isComponent ctx.options) attrs ++
        [(opening.name.isFragment && decide (1 < children.countP Child.isDisplayed),
          .stableFragment)])) ∧
    ∀ attrs', attrs.Perm attrs' → ∃ node' s'',
      Returns ((Jsx.element span opening attrs' children closing).compile ctx) s node' s'' ∧
        node'.constructionFlag = node.constructionFlag := by
  refine ⟨Jsx.constructionFlag_compile h, fun attrs' hp => ?_⟩
  have hsound : ¬ Fails ((Jsx.element span opening attrs' children closing).compile ctx) s :=
    fun hf => not_fails_of_returns h (Jsx.fails_compile_of_perm hp hf)
  obtain ⟨node', s'', h'⟩ := exists_returns_of_not_fails hsound
  refine ⟨node', s'', h', ?_⟩
  rw [Jsx.constructionFlag_compile h, Jsx.constructionFlag_compile h', attributeBits_of_perm hp]

/-- In `<div class={c} onInput={f}/>` the class, the handler as a property and the handler as an
event to hydrate have their bits, in either order of the two attributes. -/
theorem Jsx.handler_compile_sets_bits :
    let node : Node := .invoke "_createVNode" [.str "div",
      .objectOf [.pair (.str "class") (.ref "c"), .pair (.str "onInput") (.ref "f")], .null,
      .int 42 .dummy, .arrayOf [.str "onInput"]]
    (∃ s', Returns ((Jsx.element .dummy (.closed "div")
        [.braced "class" "c", .braced "onInput" "f"] [] none).compile .sample) (.new .sample)
        node s') ∧
      node.constructionFlag = .ofBits [(false, .fullProps), (true, .classBinding),
        (false, .styleBinding), (true, .props), (true, .hydrateEvents), (false, .needPatch),
        (false, .stableFragment)] ∧
      ∃ node' s', Returns ((Jsx.element .dummy (.closed "div")
        [.braced "onInput" "f", .braced "class" "c"] [] none).compile .sample) (.new .sample)
        node' s' ∧ node'.constructionFlag = node.constructionFlag := by
  intro node
  have hr : Returns ((Jsx.element .dummy (.closed "div")
      [.braced "class" "c", .braced "onInput" "f"] [] none).compile .sample) (.new .sample) node
      ⟨(Imports.new .default .none).serve (.runtime .createVNode), []⟩ := rfl
  have hbits := Jsx.compile_sets_bits _ _ _ _ _ _ _ _ _ hr
  exact ⟨⟨_, hr⟩, hbits.1, hbits.2 _ (List.Perm.swap _ _ _)⟩

end JsxVNode
