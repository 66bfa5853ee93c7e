import JsxVNode.Tree.Node

/-!
# Declared names

The identifiers a program declares, each with the scope it is declared in. They
decide whether a tag refers to a component of the file, and generated names keep
clear of them. Variables, functions, classes, parameters, caught errors and imports
declare; the names of function and class expressions and a setter's parameter do not.
-/

namespace JsxVNode

mutual

/-- The identifiers a binding pattern introduces; default values and keys introduce none. -/
def Node.patternIds : Node → List Id
  | .ident name => [name.id]
  | .group items => Node.patternIdsAll items
  | .form ⟨.arrayPattern, _, _⟩ parts => Node.patternIdsAll parts
  | .form ⟨.objectPattern, _, _⟩ parts => Node.patternIdsAll parts
  | .form ⟨.restElement, _, _⟩ parts => Node.patternIdsAll parts
  | .form ⟨.assignmentPattern, _, _⟩ (target :: _) => target.patternIds
  | .form ⟨.assignmentPatternProperty, _, _⟩ (key :: _) => key.patternIds
  | .form ⟨.keyValuePatternProperty, _, _⟩ (_ :: value :: _) => value.patternIds
  | _ => []

/-- The identifiers that several patterns introduce. -/
def Node.patternIdsAll : List Node → List Id
  | [] => []
  | node :: nodes => node.patternIds ++ Node.patternIdsAll nodes

end

/-- The identifiers a production declares by itself, apart from what its parts declare. -/
def Form.declaredIds : Form → List Node → List Id
  | .variableDeclarator, pattern :: _ => pattern.patternIds
  | .functionDeclaration, .ident name :: _ => [name.id]
  | .classDeclaration, .ident name :: _ => [name.id]
  | .parameter, _ :: pattern :: _ => pattern.patternIds
  | .arrowFunctionExpression, params :: _ => params.patternIds
  | .catchClause, param :: _ => param.patternIds
  | .importSpecifier, .ident name :: _ => [name.id]
  | .importDefaultSpecifier, .ident name :: _ => [name.id]
  | .importNamespaceSpecifier, .ident name :: _ => [name.id]
  | _, _ => []

mutual

/-- The identifiers declared anywhere in a node. -/
def Node.declaredIds : Node → List Id
  | .hole => []
  | .ident _ => []
  | .lit _ => []
  | .paren _ body => body.declaredIds
  | .array _ elements => Node.declaredIdsAll elements
  | .object _ properties => Node.declaredIdsAll properties
  | .spread _ operand => operand.declaredIds
  | .pair key value => key.declaredIds ++ value.declaredIds
  | .call _ _ callee args => callee.declaredIds ++ Node.declaredIdsAll args
  | .jsx markup => markup.declaredIds
  | .group items => Node.declaredIdsAll items
  | .form label parts => label.form.declaredIds parts ++ Node.declaredIdsAll parts

/-- The identifiers declared anywhere in several nodes. -/
def Node.declaredIdsAll : List Node → List Id
  | [] => []
  | node :: nodes => node.declaredIds ++ Node.declaredIdsAll nodes

/-- The identifiers declared anywhere in a piece of markup. -/
def Jsx.declaredIds : Jsx → List Id
  | .element _ _ attrs children _ => Attr.declaredIdsAll attrs ++ Child.declaredIdsAll children
  | .fragment _ _ _ children => Child.declaredIdsAll children

/-- The identifiers declared in the attributes of a tag. -/
def Attr.declaredIdsAll : List Attr → List Id
  | [] => []
  | attr :: attrs => attr.declaredIds ++ Attr.declaredIdsAll attrs

/-- The identifiers declared in an attribute. -/
def Attr.declaredIds : Attr → List Id
  | .named _ _ value => value.declaredIds
  | .spread _ operand => operand.declaredIds

/-- The identifiers declared in the value of an attribute. -/
def AttrValue.declaredIds : AttrValue → List Id
  | .container _ body => body.declaredIds
  | .jsx markup => markup.declaredIds
  | _ => []

/-- The identifiers declared in the children of a tag. -/
def Child.declaredIdsAll : List Child → List Id
  | [] => []
  | child :: children => child.declaredIds ++ Child.declaredIdsAll children

/-- The identifiers declared in a child. -/
def Child.declaredIds : Child → List Id
  | .container _ body => body.declaredIds
  | .spread _ operand => operand.declaredIds
  | .jsx markup => markup.declaredIds
  | _ => []

end

/-- The declared identifiers of a file. -/
structure Bindings where
  ids : List Id
  deriving DecidableEq, Repr, Inhabited

namespace Bindings

/-- No declarations. -/
def none : Bindings := ⟨[]⟩

/-- What a program declares, at any depth. -/
def ofProgram (program : Program) : Bindings := ⟨Node.declaredIdsAll program.body⟩

/-- Whether an identifier refers to a declaration of the file. -/
def contains (b : Bindings) (id : Id) : Bool := b.ids.contains id

/-- Every declared name, whatever its scope. -/
def names (b : Bindings) : List String := b.ids.map (·.name)

end Bindings

end JsxVNode
