import JsxVNode.Tree.Node

/-!
# Generated nodes

Builders for the shapes that compiled markup consists of. A generated node has no
range in the source and lives in no scope.
-/

namespace JsxVNode

/-- A label without a range, with the given attributes. -/
def Label.generated (form : Form) (data : List (String × Datum)) : Label := ⟨form, .dummy, data⟩

namespace Node

/-- A string literal. -/
def str (value : String) : Node := .lit (.generated (.str value))

/-- The literal `null`. -/
def null : Node := .lit (.generated .null)

/-- A literal `true` or `false`. -/
def bool (value : Bool) : Node := .lit (.generated (.bool value))

/-- A whole number standing at a given range. -/
def int (value : Int) (span : Span) : Node := .lit ⟨span, none, .num (.whole value)⟩

/-- A reference to a generated name. -/
def ref (name : String) : Node := .ident (.generated name)

/-- A generated node without attributes. -/
def plain (form : Form) (parts : List Node) : Node := .form (.generated form []) parts

/-- A unary operation. -/
def unary (operator : String) (operand : Node) : Node :=
  .form (.generated .unaryExpression [("operator", .text operator)]) [operand]

/-- A binary operation. -/
def binary (operator : String) (left right : Node) : Node :=
  .form (.generated .binaryExpression [("operator", .text operator)]) [left, right]

/-- The expression `void 0`. -/
def undefined : Node := unary "void" (int 0 .dummy)

/-- An array literal. -/
def arrayOf (elements : List Node) : Node := .array .dummy elements

/-- An object literal. -/
def objectOf (properties : List Node) : Node := .object .dummy properties

/-- An operand after three dots. -/
def spreadOf (operand : Node) : Node := .spread .dummy operand

/-- A call of an expression. -/
def callOf (callee : Node) (args : List Node) : Node := .call .dummy 0 callee args

/-- A call of a generated name. -/
def invoke (name : String) (args : List Node) : Node := callOf (ref name) args

/-- A named member of an object. -/
def member (object : Node) (property : String) : Node :=
  plain .memberExpression [object, ref property]

/-- A computed property key. -/
def computedKey (key : Node) : Node := plain .computed [key]

/-- A conditional expression. -/
def conditional (test consequent alternate : Node) : Node :=
  plain .conditionalExpression [test, consequent, alternate]

/-- An assignment of an expression to a target. -/
def assign (target value : Node) : Node :=
  .form (.generated .assignmentExpression [("operator", .text "=")]) [target, value]

/-- An arrow function with an expression body. -/
def arrow (params : List Node) (body : Node) : Node :=
  plain .arrowFunctionExpression [.group params, body]

/-- An arrow function without parameters. -/
def thunk (body : Node) : Node := arrow [] body

/-- A constant declaration. -/
def constants (declarators : List Node) : Node :=
  .form (.generated .variableDeclaration [("kind", .text "const")]) [.group declarators]

/-- A declarator that binds a pattern to a value. -/
def declarator (pattern value : Node) : Node := plain .variableDeclarator [pattern, value]

/-- A function declaration with plain parameters and one returned expression. -/
def functionReturning (name : String) (params : List String) (result : Node) : Node :=
  plain .functionDeclaration
    [ref name, .group (params.map fun p => plain .parameter [.group [], ref p]), .group [],
      plain .blockStatement [.group [plain .returnStatement [result]]]]

end Node

end JsxVNode
