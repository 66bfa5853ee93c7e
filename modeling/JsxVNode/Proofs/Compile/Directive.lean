import JsxVNode.Compile.Attribute
import JsxVNode.Proofs.Compile.Run

/-!
# Runs of attribute sorting

When taking a directive attribute apart ends in a fault, and what it returns
otherwise; then how an attribute is sorted in, with the intermediate states of the
properties as functions of their own. Later proofs use these statements in place of
the definitions.
-/

namespace JsxVNode.Compile

/-- A directive is taken apart after two checks of where it stands. -/
theorem parseDirective_eq (span : Span) (name : AttrName) (attrValue : AttrValue)
    (value : Option Node) (tag : ResolvedTag) (attrs : List Attr) :
    parseDirective span name attrValue value tag attrs =
      if (DirectiveName.ofAttr name).name = "model" ∧ !attrValue.isContainer then
        throw (.modelRequiresExpression name.spelling span)
      else if (DirectiveName.ofAttr name).name = "models" ∧ !tag.isComponent then
        throw (.modelsOnIntrinsic span)
      else do
        let entries ← ofExcept (directiveEntries (.ofAttr name)
          (!isRuntimeDirective (DirectiveName.ofAttr name).name tag) value (.modelsNotNested span))
        let parsed := ParsedDirective.ofEntries (.ofAttr name) value entries
        if isRuntimeDirective (DirectiveName.ofAttr name).name tag then
          let handle ← directiveHandle (DirectiveName.ofAttr name).name tag attrs
          return { parsed with
            tuple := some (directiveTuple handle parsed.values.head?.join parsed.args.head?.join
              parsed.modifiers.head?) }
        else
          return parsed := by
  unfold parseDirective
  simp only [throw_bind]

/-- No handle of a directive is a fault. -/
theorem not_fails_directiveHandle (name : String) (tag : ResolvedTag) (attrs : List Attr)
    (s : Session) : ¬ Fails (directiveHandle name tag attrs) s := by
  unfold directiveHandle get
  split
  · exact not_fails_bind not_fails_request fun _ _ => not_fails_pure
  · split
    · exact not_fails_bind not_fails_request fun _ _ => not_fails_pure
    · exact not_fails_bind not_fails_request fun _ _ => not_fails_pure

/-- The three faults of taking a directive apart. -/
theorem fails_parseDirective_iff {span : Span} {name : AttrName} {attrValue : AttrValue}
    {value : Option Node} {tag : ResolvedTag} {attrs : List Attr} {s : Session} :
    Fails (parseDirective span name attrValue value tag attrs) s ↔
      ((DirectiveName.ofAttr name).name = "model" ∧ attrValue.isContainer = false) ∨
      ((DirectiveName.ofAttr name).name = "models" ∧ tag.isComponent = false) ∨
      ∃ fault, directiveEntries (.ofAttr name)
        (!isRuntimeDirective (DirectiveName.ofAttr name).name tag) value (.modelsNotNested span) =
          .error fault := by
  rw [parseDirective_eq]
  by_cases hm : (DirectiveName.ofAttr name).name = "model" ∧ (!attrValue.isContainer) = true
  · rw [if_pos hm]
    simp only [Bool.not_eq_true'] at hm
    simp only [fails_throw, hm.1, hm.2, and_self, true_or]
  · rw [if_neg hm]
    rw [Bool.not_eq_true'] at hm
    by_cases hs : (DirectiveName.ofAttr name).name = "models" ∧ (!tag.isComponent) = true
    · rw [if_pos hs]
      simp only [Bool.not_eq_true'] at hs
      simp only [fails_throw, hs.1, hs.2, and_self, true_or, or_true]
    · rw [if_neg hs]
      rw [Bool.not_eq_true'] at hs
      rw [fails_bind_iff_of_yields (P := False)]
      · simp only [fails_ofExcept_iff, hm, hs, false_or, or_false]
      · intro t entries t' _
        rw [iff_false]
        dsimp only
        split
        · exact not_fails_bind (not_fails_directiveHandle _ _ _ _) fun _ _ => not_fails_pure
        · exact not_fails_pure

/-- What is known about a directive that was taken apart. -/
theorem returns_parseDirective {span : Span} {name : AttrName} {attrValue : AttrValue}
    {value : Option Node} {tag : ResolvedTag} {attrs : List Attr} {s s' : Session}
    {parsed : ParsedDirective}
    (h : Returns (parseDirective span name attrValue value tag attrs) s parsed s') :
    ∃ entries, directiveEntries (.ofAttr name)
        (!isRuntimeDirective (DirectiveName.ofAttr name).name tag) value (.modelsNotNested span) =
          .ok entries ∧
      ((isRuntimeDirective (DirectiveName.ofAttr name).name tag = false ∧ s = s' ∧
          parsed = .ofEntries (.ofAttr name) value entries) ∨
        isRuntimeDirective (DirectiveName.ofAttr name).name tag = true ∧ ∃ handle,
          Returns (directiveHandle (DirectiveName.ofAttr name).name tag attrs) s handle s' ∧
          parsed = { ParsedDirective.ofEntries (.ofAttr name) value entries with
            tuple := some (directiveTuple handle
              (ParsedDirective.ofEntries (.ofAttr name) value entries).values.head?.join
              (ParsedDirective.ofEntries (.ofAttr name) value entries).args.head?.join
              (ParsedDirective.ofEntries (.ofAttr name) value entries).modifiers.head?) }) := by
  rw [parseDirective_eq] at h
  split at h
  · exact absurd h not_returns_throw
  · split at h
    · exact absurd h not_returns_throw
    · obtain ⟨entries, t, hx, hr⟩ := returns_bind_iff.mp h
      obtain ⟨he, rfl⟩ := returns_ofExcept_iff.mp hx
      refine ⟨entries, he, ?_⟩
      dsimp only at hr
      split at hr
      · rename_i ht
        obtain ⟨handle, t', hh, hp⟩ := returns_bind_iff.mp hr
        obtain ⟨rfl, rfl⟩ := returns_pure_iff.mp hp
        exact Or.inr ⟨ht, handle, hh, rfl⟩
      · rename_i hf
        obtain ⟨rfl, rfl⟩ := returns_pure_iff.mp hr
        exact Or.inl ⟨Bool.eq_false_iff.mpr hf, rfl, rfl⟩

/-- A directive that was taken apart keeps its name. -/
theorem name_parseDirective (span : Span) (name : AttrName) (attrValue : AttrValue)
    (value : Option Node) (tag : ResolvedTag) (attrs : List Attr) :
    Yields (parseDirective span name attrValue value tag attrs) fun parsed =>
      parsed.name = (DirectiveName.ofAttr name).name := by
  intro s parsed s' h
  obtain ⟨entries, _, ⟨_, _, rfl⟩ | ⟨_, _, _, rfl⟩⟩ := returns_parseDirective h
  · rfl
  · rfl

end JsxVNode.Compile

namespace JsxVNode

/-- The state after a directive that is not `v-slots`, apart from its models: a runtime directive
adds its tuple, and a content directive the property it sets. -/
def PropsState.addParsed (state : PropsState) (parsed : ParsedDirective) (value : Option Node) :
    PropsState :=
  match parsed.tuple with
  | some tuple => { state with directives := state.directives ++ [tuple] }
  | none =>
    match contentProperty? parsed.name with
    | some property =>
      (state.extend [.pair (.str property)
        ((parsed.values.head?.join <|> value).getD .undefined)]).noteNames [property]
    | none => state

/-- The state after it was noted whether an attribute can change. -/
def PropsState.noteAttr (state : PropsState) (name : String) (value : Option Node)
    (isComponent : Bool) : PropsState :=
  if name == "ref" || value.any (!·.isConstant) then
    { state with analysis := state.analysis.noteDynamic name isComponent }
  else state

/-- The name of a directive is not that of an event handler. -/
theorem isHandlerName_of_isDirectiveName {name : String} (h : isDirectiveName name = true) :
    isHandlerName name = false := by
  unfold isDirectiveName at h
  unfold isHandlerName
  split at h <;> simp_all

/-- It makes no difference whether the value of a directive can change. -/
theorem PropsState.noteAttr_of_isDirectiveName (state : PropsState) {name : String}
    (value : Option Node) {isComponent : Bool} (h : isDirectiveName name = true) :
    state.noteAttr name value isComponent = state := by
  have hne (other : String) (hother : isDirectiveName other = false) : name ≠ other := by
    rintro rfl
    rw [h] at hother
    cases hother
  have hevent : isHydrationEvent name = false := by
    rw [isHydrationEvent, isHandlerName_of_isDirectiveName h]
    rfl
  have hnote : state.analysis.noteDynamic name isComponent = state.analysis := by
    unfold PropsAnalysis.noteDynamic
    simp [hne "ref" rfl, hne "class" rfl, hne "style" rfl, h, hevent]
  unfold noteAttr
  rw [hnote]
  exact ite_self state

namespace Compile

/-- A directive either gives the slots, or adds its models, or adds what it was taken apart into. -/
theorem applyDirective_eq (span : Span) (name : AttrName) (attrValue : AttrValue)
    (value : Option Node) (tag : ResolvedTag) (attrs : List Attr) (state : PropsState) :
    applyDirective span name attrValue value tag attrs state = (do
      let parsed ← parseDirective span name attrValue value tag attrs
      if parsed.name = "slots" then
        return { state with slots := value }
      else if parsed.isModel then
        let models ← ofExcept (parsed.models span)
        return (state.addParsed parsed value).addModels models
      else
        return state.addParsed parsed value) := rfl

/-- An attribute leaves its note first, and then it is expanded, applied as a directive or added as
a property. -/
theorem applyAttr_eq (ctx : Context) (span : Span) (name : AttrName) (attrValue : AttrValue)
    (value : Option Node) (tag : ResolvedTag) (attrs : List Attr) (state : PropsState) :
    applyAttr ctx span name attrValue value tag attrs state =
      let noted := state.noteAttr name.spelling value tag.isComponent
      if ctx.options.transformOn ∧ (name.spelling = "on" ∨ name.spelling = "nativeOn") then do
        let expand ← request (·.transformOn)
        return { noted with
          builder := noted.builder.pushFragment (.invoke expand [value.getD (.bool true)]) }
      else if isDirectiveName name.spelling then
        applyDirective span name attrValue value tag attrs noted
      else
        return noted.extend
          [.pair (.str (propertyNameOf name.spelling)) (value.getD (.bool true))] := rfl

/-- A directive is sorted in as such, and nothing is noted about its name. -/
theorem applyAttr_of_isDirectiveName (ctx : Context) (span : Span) {name : AttrName}
    (attrValue : AttrValue) (value : Option Node) (tag : ResolvedTag) (attrs : List Attr)
    (state : PropsState) (h : isDirectiveName name.spelling = true) :
    applyAttr ctx span name attrValue value tag attrs state =
      applyDirective span name attrValue value tag attrs state := by
  have hexpanded : ¬ (ctx.options.transformOn = true ∧
      (name.spelling = "on" ∨ name.spelling = "nativeOn")) := by
    rintro ⟨_, hn | hn⟩ <;> rw [hn] at h <;> cases h
  rw [applyAttr_eq]
  dsimp only
  rw [if_neg hexpanded, if_pos h, state.noteAttr_of_isDirectiveName value h]

end Compile

end JsxVNode
