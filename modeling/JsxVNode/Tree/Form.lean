/-!
# Syntactic forms

The productions of the host language that the compiler carries along without
looking inside them, each with its name and with the fields that hold its parts.
The fields are listed in the order in which a tree is visited, and that order is
what the parts of a node follow. The productions the compiler itself takes apart
have constructors of their own in the tree type.

The list covers modules and scripts of the plain language, in strict mode or not. Left
out are the declarations, annotations, assertions and class members that belong to its
typed dialect, as are accessor fields of classes, `using` declarations, the attributes
of imports and exports, the default specifier of an export, and the shorthand property
with a default value that an object literal has only before it is read as a pattern. No
tree has a node for these, so programs that contain them are not among the programs that
statements quantify over.
-/

namespace JsxVNode

/-- The productions carried along as a labelled node. -/
inductive Form where
  | arrayPattern
  | arrowFunctionExpression
  | assignmentExpression
  | assignmentPattern
  | assignmentPatternProperty
  | awaitExpression
  | binaryExpression
  | blockStatement
  | breakStatement
  | catchClause
  | classDeclaration
  | classExpression
  | classMethod
  | classProperty
  | computed
  | conditionalExpression
  | constructor
  | continueStatement
  | debuggerStatement
  | decorator
  | doWhileStatement
  | emptyStatement
  | exportAllDeclaration
  | exportDeclaration
  | exportDefaultDeclaration
  | exportDefaultExpression
  | exportNamedDeclaration
  | exportNamespaceSpecifier
  | exportSpecifier
  | expressionStatement
  | forInStatement
  | forOfStatement
  | forStatement
  /-- The function of a class method, which has no name of its own in a tree. -/
  | functionBody
  | functionDeclaration
  | functionExpression
  | getterProperty
  | ifStatement
  | importKeyword
  | importDeclaration
  | importDefaultSpecifier
  | importNamespaceSpecifier
  | importSpecifier
  | keyValuePatternProperty
  | labeledStatement
  | memberExpression
  | metaProperty
  | methodProperty
  | newExpression
  | objectPattern
  | optionalChainingExpression
  | parameter
  | privateMethod
  | privateName
  | privateProperty
  | restElement
  | returnStatement
  | sequenceExpression
  | setterProperty
  | staticBlock
  | superKeyword
  | superPropExpression
  | switchCase
  | switchStatement
  | taggedTemplateExpression
  | templateElement
  | templateLiteral
  | thisExpression
  | throwStatement
  | tryStatement
  | unaryExpression
  | updateExpression
  | variableDeclaration
  | variableDeclarator
  | whileStatement
  | withStatement
  | yieldExpression
  deriving DecidableEq, Repr, Inhabited

/-- How a field holds its parts. -/
inductive Arity where
  /-- One part, or none. -/
  | one
  /-- A list of parts. -/
  | many
  /-- A list of parts that is written only when it is not empty. -/
  | manyIfAny
  /-- The argument list of a construction, which may be missing altogether. -/
  | arguments
  deriving DecidableEq, Repr, Inhabited

/-- A named field of a production. -/
structure Field where
  name : String
  arity : Arity
  deriving DecidableEq, Repr, Inhabited

namespace Form

/-- The name of a production; a method's function has none. -/
def name : Form → String
  | .arrayPattern => "ArrayPattern"
  | .arrowFunctionExpression => "ArrowFunctionExpression"
  | .assignmentExpression => "AssignmentExpression"
  | .assignmentPattern => "AssignmentPattern"
  | .assignmentPatternProperty => "AssignmentPatternProperty"
  | .awaitExpression => "AwaitExpression"
  | .binaryExpression => "BinaryExpression"
  | .blockStatement => "BlockStatement"
  | .breakStatement => "BreakStatement"
  | .catchClause => "CatchClause"
  | .classDeclaration => "ClassDeclaration"
  | .classExpression => "ClassExpression"
  | .classMethod => "ClassMethod"
  | .classProperty => "ClassProperty"
  | .computed => "Computed"
  | .conditionalExpression => "ConditionalExpression"
  | .constructor => "Constructor"
  | .continueStatement => "ContinueStatement"
  | .debuggerStatement => "DebuggerStatement"
  | .decorator => "Decorator"
  | .doWhileStatement => "DoWhileStatement"
  | .emptyStatement => "EmptyStatement"
  | .exportAllDeclaration => "ExportAllDeclaration"
  | .exportDeclaration => "ExportDeclaration"
  | .exportDefaultDeclaration => "ExportDefaultDeclaration"
  | .exportDefaultExpression => "ExportDefaultExpression"
  | .exportNamedDeclaration => "ExportNamedDeclaration"
  | .exportNamespaceSpecifier => "ExportNamespaceSpecifier"
  | .exportSpecifier => "ExportSpecifier"
  | .expressionStatement => "ExpressionStatement"
  | .forInStatement => "ForInStatement"
  | .forOfStatement => "ForOfStatement"
  | .forStatement => "ForStatement"
  | .functionBody => ""
  | .functionDeclaration => "FunctionDeclaration"
  | .functionExpression => "FunctionExpression"
  | .getterProperty => "GetterProperty"
  | .ifStatement => "IfStatement"
  | .importKeyword => "Import"
  | .importDeclaration => "ImportDeclaration"
  | .importDefaultSpecifier => "ImportDefaultSpecifier"
  | .importNamespaceSpecifier => "ImportNamespaceSpecifier"
  | .importSpecifier => "ImportSpecifier"
  | .keyValuePatternProperty => "KeyValuePatternProperty"
  | .labeledStatement => "LabeledStatement"
  | .memberExpression => "MemberExpression"
  | .metaProperty => "MetaProperty"
  | .methodProperty => "MethodProperty"
  | .newExpression => "NewExpression"
  | .objectPattern => "ObjectPattern"
  | .optionalChainingExpression => "OptionalChainingExpression"
  | .parameter => "Parameter"
  | .privateMethod => "PrivateMethod"
  | .privateName => "PrivateName"
  | .privateProperty => "PrivateProperty"
  | .restElement => "RestElement"
  | .returnStatement => "ReturnStatement"
  | .sequenceExpression => "SequenceExpression"
  | .setterProperty => "SetterProperty"
  | .staticBlock => "StaticBlock"
  | .superKeyword => "Super"
  | .superPropExpression => "SuperPropExpression"
  | .switchCase => "SwitchCase"
  | .switchStatement => "SwitchStatement"
  | .taggedTemplateExpression => "TaggedTemplateExpression"
  | .templateElement => "TemplateElement"
  | .templateLiteral => "TemplateLiteral"
  | .thisExpression => "ThisExpression"
  | .throwStatement => "ThrowStatement"
  | .tryStatement => "TryStatement"
  | .unaryExpression => "UnaryExpression"
  | .updateExpression => "UpdateExpression"
  | .variableDeclaration => "VariableDeclaration"
  | .variableDeclarator => "VariableDeclarator"
  | .whileStatement => "WhileStatement"
  | .withStatement => "WithStatement"
  | .yieldExpression => "YieldExpression"

/-- All productions, in alphabetical order. -/
def all : List Form := [
  .arrayPattern, .arrowFunctionExpression, .assignmentExpression, .assignmentPattern,
  .assignmentPatternProperty, .awaitExpression, .binaryExpression, .blockStatement,
  .breakStatement, .catchClause, .classDeclaration, .classExpression, .classMethod,
  .classProperty, .computed, .conditionalExpression, .constructor, .continueStatement,
  .debuggerStatement, .decorator, .doWhileStatement, .emptyStatement, .exportAllDeclaration,
  .exportDeclaration, .exportDefaultDeclaration, .exportDefaultExpression,
  .exportNamedDeclaration, .exportNamespaceSpecifier, .exportSpecifier, .expressionStatement,
  .forInStatement, .forOfStatement, .forStatement, .functionBody, .functionDeclaration,
  .functionExpression, .getterProperty, .ifStatement, .importKeyword, .importDeclaration,
  .importDefaultSpecifier, .importNamespaceSpecifier, .importSpecifier, .keyValuePatternProperty,
  .labeledStatement, .memberExpression, .metaProperty, .methodProperty, .newExpression,
  .objectPattern, .optionalChainingExpression, .parameter, .privateMethod, .privateName,
  .privateProperty, .restElement, .returnStatement, .sequenceExpression, .setterProperty,
  .staticBlock, .superKeyword, .superPropExpression, .switchCase, .switchStatement,
  .taggedTemplateExpression, .templateElement, .templateLiteral, .thisExpression,
  .throwStatement, .tryStatement, .unaryExpression, .updateExpression, .variableDeclaration,
  .variableDeclarator, .whileStatement, .withStatement, .yieldExpression]

/-- The production of a given name. -/
def ofName? (name : String) : Option Form :=
  all.find? (·.name == name)

private def one (name : String) : Field := ⟨name, .one⟩
private def many (name : String) : Field := ⟨name, .many⟩
private def decorators : Field := ⟨"decorators", .manyIfAny⟩

/-- The fields that hold the parts of a production, in visiting order. -/
def fields : Form → List Field
  | .arrayPattern => [many "elements"]
  | .arrowFunctionExpression => [many "params", one "body"]
  | .assignmentExpression | .assignmentPattern | .binaryExpression => [one "left", one "right"]
  | .assignmentPatternProperty | .keyValuePatternProperty => [one "key", one "value"]
  | .awaitExpression | .restElement | .returnStatement | .throwStatement | .unaryExpression
  | .updateExpression | .yieldExpression =>
    [one "argument"]
  | .blockStatement => [many "stmts"]
  | .breakStatement | .continueStatement => [one "label"]
  | .catchClause => [one "param", one "body"]
  | .classDeclaration | .classExpression =>
    [one "identifier", decorators, many "body", one "superClass"]
  | .classMethod | .privateMethod => [one "key", one "function"]
  | .classProperty | .privateProperty => [one "key", one "value", decorators]
  | .computed | .decorator | .exportDefaultExpression | .expressionStatement => [one "expression"]
  | .conditionalExpression | .ifStatement => [one "test", one "consequent", one "alternate"]
  | .constructor => [one "key", many "params", one "body"]
  | .debuggerStatement | .emptyStatement | .importKeyword | .metaProperty | .privateName
  | .superKeyword | .templateElement | .thisExpression =>
    []
  | .doWhileStatement | .whileStatement => [one "test", one "body"]
  | .exportAllDeclaration => [one "source"]
  | .exportDeclaration => [one "declaration"]
  | .exportDefaultDeclaration => [one "decl"]
  | .exportNamedDeclaration | .importDeclaration => [many "specifiers", one "source"]
  | .exportNamespaceSpecifier => [one "name"]
  | .exportSpecifier => [one "orig", one "exported"]
  | .forInStatement | .forOfStatement => [one "left", one "right", one "body"]
  | .forStatement => [one "init", one "test", one "update", one "body"]
  | .functionBody => [many "params", decorators, one "body"]
  | .functionDeclaration | .functionExpression =>
    [one "identifier", many "params", decorators, one "body"]
  | .getterProperty => [one "key", one "body"]
  | .importDefaultSpecifier | .importNamespaceSpecifier => [one "local"]
  | .importSpecifier => [one "local", one "imported"]
  | .labeledStatement => [one "label", one "body"]
  | .memberExpression => [one "object", one "property"]
  | .methodProperty => [one "key", many "params", decorators, one "body"]
  | .newExpression => [one "callee", ⟨"arguments", .arguments⟩]
  | .objectPattern => [many "properties"]
  | .optionalChainingExpression => [one "base"]
  | .parameter => [decorators, one "pat"]
  | .sequenceExpression => [many "expressions"]
  | .setterProperty => [one "key", one "param", one "body"]
  | .staticBlock => [one "body"]
  | .superPropExpression => [one "obj", one "property"]
  | .switchCase => [one "test", many "consequent"]
  | .switchStatement => [one "discriminant", many "cases"]
  | .taggedTemplateExpression => [one "tag", one "template"]
  | .templateLiteral => [many "expressions", many "quasis"]
  | .tryStatement => [one "block", one "handler", one "finalizer"]
  | .variableDeclaration => [many "declarations"]
  | .variableDeclarator => [one "id", one "init"]
  | .withStatement => [one "object", one "body"]

theorem mem_all (f : Form) : f ∈ all := by
  cases f <;> decide

end Form

end JsxVNode
