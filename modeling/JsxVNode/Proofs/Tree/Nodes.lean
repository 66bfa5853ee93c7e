import JsxVNode.Tree.Node

/-!
# The nodes of a tree

Every node that stands in a tree, at any depth: in the parts of other nodes, and in
the attributes and children of markup. What holds of each node by itself is said of a
whole tree through this list.
-/

namespace JsxVNode

mutual

/-- A node and every node inside it. -/
def Node.nodes : Node → List Node
  | .hole => [.hole]
  | .ident name => [.ident name]
  | .lit value => [.lit value]
  | .paren span body => .paren span body :: body.nodes
  | .array span elements => .array span elements :: Node.nodesAll elements
  | .object span properties => .object span properties :: Node.nodesAll properties
  | .spread dots operand => .spread dots operand :: operand.nodes
  | .pair key value => .pair key value :: (key.nodes ++ value.nodes)
  | .call span scope callee args =>
    .call span scope callee args :: (callee.nodes ++ Node.nodesAll args)
  | .jsx markup => .jsx markup :: markup.nodes
  | .group items => .group items :: Node.nodesAll items
  | .form label parts => .form label parts :: Node.nodesAll parts

/-- Every node in several nodes. -/
def Node.nodesAll : List Node → List Node
  | [] => []
  | node :: nodes => node.nodes ++ Node.nodesAll nodes

/-- Every node in a piece of markup. -/
def Jsx.nodes : Jsx → List Node
  | .element _ _ attrs children _ => Attr.nodesAll attrs ++ Child.nodesAll children
  | .fragment _ _ _ children => Child.nodesAll children

/-- Every node in the attributes of a tag. -/
def Attr.nodesAll : List Attr → List Node
  | [] => []
  | attr :: attrs => attr.nodes ++ Attr.nodesAll attrs

/-- Every node in an attribute. -/
def Attr.nodes : Attr → List Node
  | .named _ _ value => value.nodes
  | .spread _ operand => operand.nodes

/-- Every node in the value of an attribute. -/
def AttrValue.nodes : AttrValue → List Node
  | .container _ body => body.nodes
  | .jsx markup => markup.nodes
  | _ => []

/-- Every node in the children of a tag. -/
def Child.nodesAll : List Child → List Node
  | [] => []
  | child :: children => child.nodes ++ Child.nodesAll children

/-- Every node in a child. -/
def Child.nodes : Child → List Node
  | .container _ body => body.nodes
  | .spread _ operand => operand.nodes
  | .jsx markup => markup.nodes
  | _ => []

end

theorem Node.nodesAll_eq_flatMap (nodes : List Node) :
    Node.nodesAll nodes = nodes.flatMap Node.nodes := by
  induction nodes with
  | nil => rfl
  | cons node nodes ih => rw [Node.nodesAll, ih, List.flatMap_cons]

/-- A condition holds of every node in several nodes if it does so for each of them. -/
theorem Node.forall_mem_nodesAll_iff {P : Node → Prop} {nodes : List Node} :
    (∀ part ∈ Node.nodesAll nodes, P part) ↔ ∀ node ∈ nodes, ∀ part ∈ node.nodes, P part := by
  rw [Node.nodesAll_eq_flatMap, List.forall_mem_flatMap]

/-- The identifier that a node is, if it is one. -/
def Node.ident? : Node → Option Ident
  | .ident name => some name
  | _ => none

end JsxVNode
