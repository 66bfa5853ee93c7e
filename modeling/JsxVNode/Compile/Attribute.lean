import JsxVNode.Compile.Directive
import JsxVNode.Props.Analysis
import JsxVNode.Props.Builder

/-!
# Compiling attributes

Sorts one attribute after another into the properties of an element, its runtime
directives and its slots, and notes which properties can change.
-/

namespace JsxVNode

/-- What the attributes of an element have contributed so far. -/
structure PropsState where
  builder : PropsBuilder
  analysis : PropsAnalysis
  /-- The tuples of the runtime directives. -/
  directives : List Node
  /-- The value of `v-slots`. -/
  slots : Option Node

namespace PropsState

/-- No attributes yet. -/
def new (options : Options) : PropsState := ⟨.new options.mergeProps, .empty, [], none⟩

/-- Adds properties. -/
def extend (state : PropsState) (properties : List Node) : PropsState :=
  { state with builder := state.builder.extend properties }

/-- Adds names of properties that can change. -/
def noteNames (state : PropsState) (names : List String) : PropsState :=
  { state with analysis := { state.analysis with
      dynamicNames := state.analysis.dynamicNames.insertAll names } }

/-- Adds the operand of a spread attribute, whose names are unknown. -/
def addSpread (state : PropsState) (operand : Node) : PropsState :=
  { state with
    builder := state.builder.pushSpread operand
    analysis := { state.analysis with hasDynamicKeys := true } }

/-- Adds what models contribute. -/
def addModels (state : PropsState) (models : ModelProps) : PropsState :=
  let state := (state.extend models.props).noteNames models.dynamicNames
  { state with analysis := { state.analysis with
      hasDynamicKeys := state.analysis.hasDynamicKeys || models.hasDynamicKeys } }

end PropsState

/-- What all attributes of an element contribute to it. -/
structure ElementProps where
  props : Option Node
  directives : List Node
  slots : Option Node
  analysis : PropsAnalysis

/-- Whether a name reads `onclick` in lower case. -/
def isClickName (name : String) : Bool := name.toList.flatMap Text.lowercase == "onclick".toList

/-- Whether a handler of this name on an element has to be attached to prerendered markup. -/
def isHydrationEvent (name : String) : Bool :=
  isHandlerName name && !isClickName name && name != "onUpdate:modelValue"

/-- Notes that the attribute of the given name can change. A component compares its `class` and
`style` like any other property. -/
def PropsAnalysis.noteDynamic (analysis : PropsAnalysis) (name : String) (isComponent : Bool) :
    PropsAnalysis :=
  let analysis := { analysis with
    hasHydrationEvent := analysis.hasHydrationEvent || (!isComponent && isHydrationEvent name) }
  if name = "ref" then { analysis with hasRef := true }
  else if name = "class" ∧ !isComponent then { analysis with hasClassBinding := true }
  else if name = "style" ∧ !isComponent then { analysis with hasStyleBinding := true }
  else if name = "key" ∨ name = "on" ∨ isDirectiveName name then analysis
  else { analysis with dynamicNames := analysis.dynamicNames.insert name }

/-- The name of the property an attribute sets: `xlink` before a capital letter is a namespace. -/
def propertyNameOf (name : String) : String :=
  match name.toList with
  | 'x' :: 'l' :: 'i' :: 'n' :: 'k' :: c :: rest =>
    if c.isUpper then "xlink:" ++ String.ofList (c.toLower :: rest) else name
  | _ => name

/-- The property of the platform that a content directive sets. -/
def contentProperty? (directive : String) : Option String :=
  if directive = "html" then some "innerHTML"
  else if directive = "text" then some "textContent"
  else none

namespace Compile

/-- Sorts in a directive attribute. -/
def applyDirective (span : Span) (name : AttrName) (attrValue : AttrValue) (value : Option Node)
    (tag : ResolvedTag) (attrs : List Attr) (state : PropsState) : Compile PropsState := do
  let parsed ← parseDirective span name attrValue value tag attrs
  if parsed.name = "slots" then
    return { state with slots := value }
  let state := match parsed.tuple with
    | some tuple => { state with directives := state.directives ++ [tuple] }
    | none =>
      match contentProperty? parsed.name with
      | some property =>
        let content := parsed.values.head?.join <|> value
        (state.extend [.pair (.str property) (content.getD .undefined)]).noteNames [property]
      | none => state
  if parsed.isModel then
    return state.addModels (← ofExcept (parsed.models span))
  else
    return state

/-- Sorts in an attribute with a name. -/
def applyAttr (ctx : Context) (span : Span) (name : AttrName) (attrValue : AttrValue)
    (value : Option Node) (tag : ResolvedTag) (attrs : List Attr) (state : PropsState) :
    Compile PropsState := do
  let spelling := name.spelling
  let isDynamic := spelling == "ref" || value.any (!·.isConstant)
  let state := if isDynamic then
      { state with analysis := state.analysis.noteDynamic spelling tag.isComponent }
    else state
  if ctx.options.transformOn ∧ (spelling = "on" ∨ spelling = "nativeOn") then
    let expand ← request (·.transformOn)
    return { state with
      builder := state.builder.pushFragment (.invoke expand [value.getD (.bool true)]) }
  else if isDirectiveName spelling then
    applyDirective span name attrValue value tag attrs state
  else
    return state.extend [.pair (.str (propertyNameOf spelling)) (value.getD (.bool true))]

/-- Builds the props argument from all attributes. -/
def finishProps (state : PropsState) : Compile ElementProps := do
  let props ← request state.builder.finish
  return ⟨props, state.directives, state.slots, state.analysis⟩

end Compile

end JsxVNode
