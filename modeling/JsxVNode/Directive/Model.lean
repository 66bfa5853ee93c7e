import JsxVNode.Directive.Parsed
import JsxVNode.Fault

/-!
# Models

A model binds an expression both ways: the value is passed down as a property, and a
handler writes the updated value back. On a component a model becomes properties
alone; elsewhere a runtime directive owns the value and only the handler is added.
-/

namespace JsxVNode

/-- The name of a model: known, or an expression. -/
inductive ModelName where
  | static (name : String)
  | dynamic (name : Node)

namespace ModelName

/-- The name of a model without an argument. -/
def defaultName : String := "modelValue"

/-- The name that an argument gives to a model; `null` gives it the default name. -/
def ofArg : Option Node → ModelName
  | none => .static defaultName
  | some arg =>
    match arg with
    | .lit ⟨_, _, .null⟩ => .static defaultName
    | _ =>
      match arg.string? with
      | some name => .static name
      | none => .dynamic arg

/-- The key of the property that passes the value down. -/
def valueKey : ModelName → Node
  | .static name => .str name
  | .dynamic name => .computedKey name

/-- The key of the property that lists the modifiers. -/
def modifiersKey : ModelName → Node
  | .static name =>
    if name = defaultName then .str "modelModifiers" else .str (name ++ "Modifiers")
  | .dynamic name => .computedKey (.binary "+" name (.str "Modifiers"))

/-- The key of the handler that writes the value back. -/
def handlerKey : ModelName → Node
  | .static name => .str ("onUpdate:" ++ name)
  | .dynamic name => .computedKey (.binary "+" (.str "onUpdate:") name)

end ModelName

/-- What models contribute to an element. -/
structure ModelProps where
  props : List Node
  dynamicNames : List String
  hasDynamicKeys : Bool

namespace ModelProps

/-- Nothing. -/
def empty : ModelProps := ⟨[], [], false⟩

/-- The contributions of one model after those of another. -/
def append (a b : ModelProps) : ModelProps :=
  ⟨a.props ++ b.props, a.dynamicNames ++ b.dynamicNames, a.hasDynamicKeys || b.hasDynamicKeys⟩

end ModelProps

/-- The handler that writes an updated value to a target. -/
def updateHandler (target : Node) : Node :=
  .arrow [.ref "$event"] (.assign target (.ref "$event"))

/-- The contributions of the model that binds `value`, which is written back to `target`. -/
def ModelProps.ofModel (onComponent : Bool) (name : ModelName) (modifiers : Option NameSet)
    (value target : Node) : ModelProps :=
  let valueProps : List Node :=
    if onComponent then
      Node.pair name.valueKey value ::
        match modifiers.filter (!·.isEmpty) with
        | some modifiers => [Node.pair name.modifiersKey (modifiersObject modifiers)]
        | none => []
    else []
  let props := valueProps ++ [Node.pair name.handlerKey (updateHandler target)]
  match name with
  | .static text =>
    ⟨props, (if onComponent then [text] else []) ++ ["onUpdate:" ++ text], false⟩
  | .dynamic _ => ⟨props, [], true⟩

/-- The contributions of several models, whose arguments and modifiers go by their index. A
value that cannot be assigned to is a fault of the directive. -/
def modelPropsOf (onComponent : Bool) (fault : Fault) :
    List (Option Node) → List (Option Node) → List NameSet → Except Fault ModelProps
  | [], _, _ => .ok .empty
  | value :: values, args, modifiers =>
    match value with
    | none => .error fault
    | some value =>
      match value.assignTarget? with
      | none => .error fault
      | some target =>
        let group := ModelProps.ofModel onComponent (.ofArg args.head?.join) modifiers.head?
          value target
        (modelPropsOf onComponent fault values args.tail modifiers.tail).map group.append

/-- The contributions of a model directive at a given range. -/
def ParsedDirective.models (d : ParsedDirective) (span : Span) : Except Fault ModelProps :=
  let spelling := if d.name = "models" then "v-models" else "v-model"
  modelPropsOf d.tuple.isNone (.notAssignable spelling span) d.values d.args d.modifiers

end JsxVNode
