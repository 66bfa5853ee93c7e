import JsxVNode.Tree.Build

/-!
# Questions about expressions

Small readings of a node that the compiler's rules are stated with: whether its
value can change between two renderings, which string it denotes, which static
name a property has, and which expression it assigns to.
-/

namespace JsxVNode.Node

/-- Whether a node is a computed property key. -/
def isComputed : Node → Bool
  | .form label _ => label.form == .computed
  | _ => false

/-- Whether a node is an operand after three dots. -/
def isSpread : Node → Bool
  | .spread .. => true
  | _ => false

/-- Whether a node is a string literal. -/
def isString : Node → Bool
  | .lit l => l.string?.isSome
  | _ => false

/-- Whether a node is a function or an arrow function. -/
def isFunction : Node → Bool
  | .form label _ => label.form == .functionExpression || label.form == .arrowFunctionExpression
  | _ => false

/-- The expression inside any number of parentheses. -/
def unparen : Node → Node
  | .paren _ body => body.unparen
  | node => node

/-- The string that a string literal, inside any parentheses, denotes. -/
def string? (node : Node) : Option String :=
  match node.unparen with
  | .lit l => l.string?
  | _ => none

mutual

/-- Whether a value is the same in every rendering: it is built from literals, the name
`undefined` and templates without interpolation, in parentheses, arrays and objects with
static keys. -/
def isConstant : Node → Bool
  | .ident name => name.name == "undefined"
  | .lit _ => true
  | .paren _ body => body.isConstant
  | .array _ elements => allConstant elements
  | .object _ properties => allConstantPairs properties
  | .form label (.group [] :: _) => label.form == .templateLiteral
  | _ => false

/-- Whether all elements of an array are constant; a hole or a spread is not. -/
def allConstant : List Node → Bool
  | [] => true
  | node :: nodes => node.isConstant && allConstant nodes

/-- Whether all properties of an object have a static key and a constant value. -/
def allConstantPairs : List Node → Bool
  | [] => true
  | .pair key value :: nodes => !key.isComputed && value.isConstant && allConstantPairs nodes
  | _ :: _ => false

end

/-- The static name of a property key, if it has one. -/
def keyName? : Node → Option String
  | .ident name => some name.name
  | .lit l =>
    match l.value with
    | .str value => some value
    | .num value => some value.text
    | _ => none
  | _ => none

/-- The static name of a property, if it has one; a shorthand is named by itself. -/
def propertyName? : Node → Option String
  | .pair key _ => key.keyName?
  | .ident name => some name.name
  | _ => none

/-- The value a named property holds. -/
def propertyValue : Node → Node
  | .pair _ value => value
  | node => node

/-- The expression that an assignment to this node writes to: an identifier or a member,
inside any parentheses. -/
def assignTarget? (node : Node) : Option Node :=
  match node.unparen with
  | .ident name => some (.ident name)
  | .form label parts =>
    if label.form = .memberExpression ∨ label.form = .superPropExpression then
      some (.form label parts)
    else
      none
  | _ => none

end JsxVNode.Node
