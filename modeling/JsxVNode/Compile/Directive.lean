import JsxVNode.Compile.Tag
import JsxVNode.Directive.Model

/-!
# Compiling directives

Takes a directive attribute apart and, if the runtime applies the directive, finds
the handle it is applied through. The handle of a model depends on the tag and, for
inputs, on the `type` attribute.
-/

namespace JsxVNode

/-- What the `type` attribute of an input says. -/
inductive InputType where
  | static (name : String)
  /-- The type is known only when the program runs. -/
  | dynamic
  deriving DecidableEq, Repr

/-- What an attribute value says as the type of an input; a bare attribute says nothing. -/
def InputType.ofValue : AttrValue → InputType
  | .bare => .static ""
  | .lit value => (value.string?.map static).getD .dynamic
  | .container _ body => (body.string?.map static).getD .dynamic
  | .empty .. => .dynamic
  | .jsx _ => .dynamic

/-- The type of an input, by the first attribute of that name. -/
def inputType? : List Attr → Option InputType
  | [] => none
  | .named _ (.plain name) value :: attrs =>
    if name.name = "type" then some (.ofValue value) else inputType? attrs
  | _ :: attrs => inputType? attrs

/-- The runtime directive that implements a model on an element. -/
def modelExport (tag : ResolvedTag) (attrs : List Attr) : Export :=
  if tag.name = some "select" then .vModelSelect
  else if tag.name = some "textarea" then .vModelText
  else
    match inputType? attrs with
    | none => .vModelText
    | some (.static type) =>
      if type = "checkbox" then .vModelCheckbox
      else if type = "radio" then .vModelRadio
      else .vModelText
    | some .dynamic => .vModelDynamic

/-- Whether an attribute has braces after its name. -/
def AttrValue.isContainer : AttrValue → Bool
  | .container .. => true
  | .empty .. => true
  | _ => false

/-- The directives that have a meaning at compile time. -/
def compileTimeDirectives : List String := ["html", "text", "model", "slots", "models"]

/-- Whether a directive is applied by the runtime rather than at compile time. A model is
applied there unless it stands on a component. -/
def isRuntimeDirective (name : String) (tag : ResolvedTag) : Bool :=
  !compileTimeDirectives.contains name || (name == "model" && !tag.isComponent)

/-- The array literals that several models are given by, if every element is one. -/
def nestedElements? : List Node → Option (List (List Node))
  | [] => some []
  | element :: elements => do
    let inner ← (← element.elementExpr?).unparen.elements?
    return inner :: (← nestedElements? elements)

/-- The entries of a directive's value. -/
def directiveEntries (name : DirectiveName) (keepPlace : Bool) (value : Option Node)
    (fault : Fault) : Except Fault (List DirectiveEntry) :=
  match value.bind (·.unparen.elements?) with
  | some elements =>
    if name.name = "models" then
      match nestedElements? elements with
      | some entries => .ok (entries.map (.ofElements keepPlace name.modifiers))
      | none => .error fault
    else
      .ok [.ofElements keepPlace name.modifiers elements]
  | none =>
    .ok [⟨value, if name.name = "model" ∧ keepPlace then [none] else [], name.modifiers⟩]

namespace Compile

/-- The handle that a runtime directive is applied through. -/
def directiveHandle (name : String) (tag : ResolvedTag) (attrs : List Attr) : Compile Node := do
  if name = "show" then
    return .ref (← get .vShow)
  else if name = "model" then
    return .ref (← get (modelExport tag attrs))
  else
    return .invoke (← get .resolveDirective) [.str name]

/-- Takes a directive attribute apart. `value` is its compiled value, and `attrs` are all
attributes of its tag. -/
def parseDirective (span : Span) (attrName : AttrName) (attrValue : AttrValue)
    (value : Option Node) (tag : ResolvedTag) (attrs : List Attr) : Compile ParsedDirective := do
  let name := DirectiveName.ofAttr attrName
  if name.name = "model" ∧ !attrValue.isContainer then
    throw (.modelRequiresExpression attrName.spelling span)
  if name.name = "models" ∧ !tag.isComponent then
    throw (.modelsOnIntrinsic span)
  let atRuntime := isRuntimeDirective name.name tag
  let entries ← ofExcept (directiveEntries name (!atRuntime) value (.modelsNotNested span))
  let parsed := ParsedDirective.ofEntries name value entries
  if atRuntime then
    let handle ← directiveHandle name.name tag attrs
    return { parsed with
      tuple := some (directiveTuple handle parsed.values.head?.join parsed.args.head?.join
        parsed.modifiers.head?) }
  else
    return parsed

end Compile

end JsxVNode
