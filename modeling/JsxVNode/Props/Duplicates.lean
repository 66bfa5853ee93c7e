import JsxVNode.Tree.Shape

/-!
# Repeated properties

Folds properties that have the same static name. A spread ends a run of properties,
since what it contributes is unknown, and folding happens within a run. The values
of `class`, `style` and event handlers add up in an array; of any other property the
last value is kept. Either way the property stays where its name occurred first.
-/

namespace JsxVNode

/-- Whether a name is that of an event handler: `on` and anything but a small letter. -/
def isHandlerName (name : String) : Bool :=
  match name.toList with
  | 'o' :: 'n' :: c :: _ => !c.isLower
  | _ => false

/-- Whether the values of repeated properties of this name add up. -/
def isMergeable (name : String) : Bool :=
  name == "class" || name == "style" || isHandlerName name

namespace Node

/-- The value of a property after another value for the same name. -/
def foldValue (name : String) (earlier later : Node) : Node :=
  if isMergeable name then
    match earlier with
    | .array span elements => .array span (elements ++ [later])
    | _ => arrayOf [earlier, later]
  else
    later

/-- The key of a named property; a shorthand is its own key. -/
def propertyKey : Node → Node
  | .pair key _ => key
  | .ident name => ref name.name
  | node => node

/-- A named property after another value for its name. -/
def foldProperty (name : String) (earlier : Node) (later : Node) : Node :=
  .pair earlier.propertyKey (foldValue name earlier.propertyValue later)

/-- Folds a value into the property of the given name, if the run has one. -/
def foldInto? (name : String) (later : Node) : List Node → Option (List Node)
  | [] => none
  | property :: run =>
    if property.propertyName? = some name then
      some (foldProperty name property later :: run)
    else
      (foldInto? name later run).map (property :: ·)

/-- Adds a property to the end of a run, or folds it into the one of the same name. -/
def addProperty (run : List Node) (property : Node) : List Node :=
  match property.propertyName? with
  | none => run ++ [property]
  | some name => (foldInto? name property.propertyValue run).getD (run ++ [property])

/-- Folds the properties that follow a run. -/
def foldPropertiesAfter (run : List Node) : List Node → List Node
  | [] => run
  | property :: properties =>
    if property.isSpread then
      run ++ property :: foldPropertiesAfter [] properties
    else
      foldPropertiesAfter (addProperty run property) properties

/-- Folds repeated properties within each run. -/
def foldProperties (properties : List Node) : List Node := foldPropertiesAfter [] properties

end Node

end JsxVNode
