import JsxVNode.Tree.Node

/-!
# Outermost markup

The pieces of markup in a tree that stand where an expression may stand and in no
other markup, and the tree that arises when each of them is replaced by an
expression. Everything else is kept: a replacement goes through the constructors of a
node and changes none of their fields.
-/

namespace JsxVNode

mutual

/-- The outermost pieces of markup in a node, in visiting order. -/
def Node.outermost : Node → List Jsx
  | .hole => []
  | .ident _ => []
  | .lit _ => []
  | .paren _ body => body.outermost
  | .array _ elements => Node.outermostAll elements
  | .object _ properties => Node.outermostAll properties
  | .spread _ operand => operand.outermost
  | .pair key value => key.outermost ++ value.outermost
  | .call _ _ callee args => callee.outermost ++ Node.outermostAll args
  | .jsx markup => [markup]
  | .group items => Node.outermostAll items
  | .form _ parts => Node.outermostAll parts

/-- The outermost pieces of markup in several nodes. -/
def Node.outermostAll : List Node → List Jsx
  | [] => []
  | node :: nodes => node.outermost ++ Node.outermostAll nodes

end

mutual

/-- A node with its outermost markup replaced by the first of the given expressions, one for each
piece, and the expressions that are left over. -/
def Node.fill : Node → List Node → Node × List Node
  | .hole, exprs => (.hole, exprs)
  | .ident name, exprs => (.ident name, exprs)
  | .lit value, exprs => (.lit value, exprs)
  | .paren span body, exprs =>
    let (body, exprs) := body.fill exprs
    (.paren span body, exprs)
  | .array span elements, exprs =>
    let (elements, exprs) := Node.fillAll elements exprs
    (.array span elements, exprs)
  | .object span properties, exprs =>
    let (properties, exprs) := Node.fillAll properties exprs
    (.object span properties, exprs)
  | .spread dots operand, exprs =>
    let (operand, exprs) := operand.fill exprs
    (.spread dots operand, exprs)
  | .pair key value, exprs =>
    let (key, exprs) := key.fill exprs
    let (value, exprs) := value.fill exprs
    (.pair key value, exprs)
  | .call span scope callee args, exprs =>
    let (callee, exprs) := callee.fill exprs
    let (args, exprs) := Node.fillAll args exprs
    (.call span scope callee args, exprs)
  | .jsx markup, [] => (.jsx markup, [])
  | .jsx _, expr :: exprs => (expr, exprs)
  | .group items, exprs =>
    let (items, exprs) := Node.fillAll items exprs
    (.group items, exprs)
  | .form label parts, exprs =>
    let (parts, exprs) := Node.fillAll parts exprs
    (.form label parts, exprs)

/-- Several nodes with their outermost markup replaced, and the expressions that are left over. -/
def Node.fillAll : List Node → List Node → List Node × List Node
  | [], exprs => ([], exprs)
  | node :: nodes, exprs =>
    let (node, exprs) := node.fill exprs
    let (nodes, exprs) := Node.fillAll nodes exprs
    (node :: nodes, exprs)

end

/-- Filling in expressions keeps the number of nodes. -/
theorem Node.length_fillAll (nodes exprs : List Node) :
    (Node.fillAll nodes exprs).1.length = nodes.length := by
  induction nodes generalizing exprs with
  | nil => rfl
  | cons node nodes ih => exact congrArg (· + 1) (ih (node.fill exprs).2)

end JsxVNode
