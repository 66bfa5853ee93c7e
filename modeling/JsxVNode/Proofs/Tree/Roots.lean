import JsxVNode.Proofs.Tree.Markup

/-!
# Root markup

The pieces of markup in a tree that stand where an expression may stand. Each of them
is replaced by itself, after the ones inside it, while the markup between tags and the
direct attribute values go with the piece they stand in. The list is in the order of
the replacements.

Every piece of markup in a tree is of one of the two kinds: it is a root, or it is
attached to another piece.
-/

namespace JsxVNode

mutual

/-- The root markup in a node. -/
def Node.roots : Node → List Jsx
  | .hole => []
  | .ident _ => []
  | .lit _ => []
  | .paren _ body => body.roots
  | .array _ elements => Node.rootsAll elements
  | .object _ properties => Node.rootsAll properties
  | .spread _ operand => operand.roots
  | .pair key value => key.roots ++ value.roots
  | .call _ _ callee args => callee.roots ++ Node.rootsAll args
  | .jsx markup => markup.innerRoots ++ [markup]
  | .group items => Node.rootsAll items
  | .form _ parts => Node.rootsAll parts

/-- The root markup in several nodes. -/
def Node.rootsAll : List Node → List Jsx
  | [] => []
  | node :: nodes => node.roots ++ Node.rootsAll nodes

/-- The root markup inside a piece of markup. -/
def Jsx.innerRoots : Jsx → List Jsx
  | .element _ _ attrs children _ => Attr.rootsAll attrs ++ Child.rootsAll children
  | .fragment _ _ _ children => Child.rootsAll children

/-- The root markup in the attributes of a tag. -/
def Attr.rootsAll : List Attr → List Jsx
  | [] => []
  | attr :: attrs => attr.roots ++ Attr.rootsAll attrs

/-- The root markup in an attribute. -/
def Attr.roots : Attr → List Jsx
  | .named _ _ value => value.roots
  | .spread _ operand => operand.roots

/-- The root markup in the value of an attribute. -/
def AttrValue.roots : AttrValue → List Jsx
  | .bare => []
  | .lit _ => []
  | .container _ body => body.roots
  | .empty .. => []
  | .jsx markup => markup.innerRoots

/-- The root markup in the children of a tag. -/
def Child.rootsAll : List Child → List Jsx
  | [] => []
  | child :: children => child.roots ++ Child.rootsAll children

/-- The root markup in a child. -/
def Child.roots : Child → List Jsx
  | .text .. => []
  | .container _ body => body.roots
  | .empty .. => []
  | .spread _ operand => operand.roots
  | .jsx markup => markup.innerRoots

end

theorem Node.rootsAll_eq_flatMap (nodes : List Node) :
    Node.rootsAll nodes = nodes.flatMap Node.roots := by
  induction nodes with
  | nil => rfl
  | cons node nodes ih => rw [Node.rootsAll, ih, List.flatMap_cons]

/-- The piece of markup that is the value of an attribute. -/
def AttrValue.attached : AttrValue → List Jsx
  | .jsx markup => [markup]
  | _ => []

/-- The piece of markup that is an attribute's direct value. -/
def Attr.attached : Attr → List Jsx
  | .named _ _ value => value.attached
  | .spread .. => []

/-- The piece of markup that is a child. -/
def Child.attached : Child → List Jsx
  | .jsx markup => [markup]
  | _ => []

/-- The pieces that are attached to a piece of markup: the direct values of its attributes and the
pieces among its children, but not what stands inside those. -/
def Jsx.attached : Jsx → List Jsx
  | .element _ _ attrs children _ =>
    attrs.flatMap Attr.attached ++ children.flatMap Child.attached
  | .fragment _ _ _ children => children.flatMap Child.attached

/-- Two divided lists are divided together. -/
theorem perm_append_of_perm {α : Type} {a b c a' b' c' : List α} (h : (a ++ b).Perm c)
    (h' : (a' ++ b').Perm c') : ((a ++ a') ++ (b ++ b')).Perm (c ++ c') := by
  have hswap : ((a ++ a') ++ (b ++ b')).Perm ((a ++ b) ++ (a' ++ b')) := by
    rw [List.append_assoc, List.append_assoc]
    exact (List.perm_append_comm_assoc a' b b').append_left a
  exact hswap.trans (h.append h')

/-- Two lists divided in three are divided together. -/
theorem perm_append_append_of_perm {α : Type} {a b c d a' b' c' d' : List α}
    (h : (a ++ (b ++ c)).Perm d) (h' : (a' ++ (b' ++ c')).Perm d') :
    ((a ++ a') ++ ((b ++ b') ++ (c ++ c'))).Perm (d ++ d') :=
  ((perm_append_of_perm (.refl (b ++ c)) (.refl (b' ++ c'))).append_left (a ++ a')).trans
    (perm_append_of_perm h h')

-- For a piece of markup, and so for the attribute or child that it is, the piece itself counts as
-- attached: what it is attached to is outside.
mutual

/-- The markup in a node is divided into the roots and the attached pieces. -/
theorem Node.roots_append_attached_perm (node : Node) :
    (node.roots ++ node.markups.flatMap Jsx.attached).Perm node.markups := by
  cases node with
  | hole => exact .nil
  | ident name => exact .nil
  | lit value => exact .nil
  | paren span body => exact Node.roots_append_attached_perm body
  | array span elements => exact Node.rootsAll_append_attached_perm elements
  | object span properties => exact Node.rootsAll_append_attached_perm properties
  | spread dots operand => exact Node.roots_append_attached_perm operand
  | pair key value =>
    rw [Node.roots, Node.markups, List.flatMap_append]
    exact perm_append_of_perm (Node.roots_append_attached_perm key)
      (Node.roots_append_attached_perm value)
  | call span scope callee args =>
    rw [Node.roots, Node.markups, List.flatMap_append]
    exact perm_append_of_perm (Node.roots_append_attached_perm callee)
      (Node.rootsAll_append_attached_perm args)
  | jsx markup =>
    rw [Node.roots, Node.markups, List.append_assoc]
    exact Jsx.innerRoots_append_attached_perm markup
  | group items => exact Node.rootsAll_append_attached_perm items
  | form label parts => exact Node.rootsAll_append_attached_perm parts

/-- The markup in nodes is divided into the roots and the attached pieces. -/
theorem Node.rootsAll_append_attached_perm (nodes : List Node) :
    (Node.rootsAll nodes ++ (Node.markupsAll nodes).flatMap Jsx.attached).Perm
      (Node.markupsAll nodes) := by
  cases nodes with
  | nil => exact .nil
  | cons node nodes =>
    rw [Node.rootsAll, Node.markupsAll, List.flatMap_append]
    exact perm_append_of_perm (Node.roots_append_attached_perm node)
      (Node.rootsAll_append_attached_perm nodes)

/-- The markup inside a piece and the piece itself are divided, where the piece counts as
attached. -/
theorem Jsx.innerRoots_append_attached_perm (markup : Jsx) :
    (markup.innerRoots ++ markup :: markup.markups.flatMap Jsx.attached).Perm markup.markups := by
  refine List.perm_middle.trans ?_
  cases markup with
  | element span opening attrs children closing =>
    rw [Jsx.innerRoots, Jsx.markups, List.flatMap_cons, List.flatMap_append, Jsx.attached]
    exact (perm_append_append_of_perm (Attr.rootsAll_append_attached_perm attrs)
      (Child.rootsAll_append_attached_perm children)).cons _
  | fragment span opening closing children =>
    rw [Jsx.innerRoots, Jsx.markups, List.flatMap_cons, Jsx.attached]
    exact (Child.rootsAll_append_attached_perm children).cons _

/-- The markup in attributes is divided into the roots, the direct values, and what is attached to
markup. -/
theorem Attr.rootsAll_append_attached_perm (attrs : List Attr) :
    (Attr.rootsAll attrs ++ (attrs.flatMap Attr.attached ++
      (Attr.markupsAll attrs).flatMap Jsx.attached)).Perm (Attr.markupsAll attrs) := by
  cases attrs with
  | nil => exact .nil
  | cons attr attrs =>
    rw [Attr.rootsAll, Attr.markupsAll, List.flatMap_cons, List.flatMap_append]
    exact perm_append_append_of_perm (Attr.roots_append_attached_perm attr)
      (Attr.rootsAll_append_attached_perm attrs)

theorem Attr.roots_append_attached_perm (attr : Attr) :
    (attr.roots ++ (attr.attached ++ attr.markups.flatMap Jsx.attached)).Perm attr.markups := by
  cases attr with
  | named span name value => exact AttrValue.roots_append_attached_perm value
  | spread dots operand => exact Node.roots_append_attached_perm operand

/-- The markup in a value is divided into the roots, the value itself, and what is attached to
markup. -/
theorem AttrValue.roots_append_attached_perm (value : AttrValue) :
    (value.roots ++ (value.attached ++ value.markups.flatMap Jsx.attached)).Perm
      value.markups := by
  cases value with
  | container span body => exact Node.roots_append_attached_perm body
  | jsx markup => exact Jsx.innerRoots_append_attached_perm markup
  | _ => exact .nil

/-- The markup in children is divided into the roots, the children themselves, and what is attached
to markup. -/
theorem Child.rootsAll_append_attached_perm (children : List Child) :
    (Child.rootsAll children ++ (children.flatMap Child.attached ++
      (Child.markupsAll children).flatMap Jsx.attached)).Perm (Child.markupsAll children) := by
  cases children with
  | nil => exact .nil
  | cons child children =>
    rw [Child.rootsAll, Child.markupsAll, List.flatMap_cons, List.flatMap_append]
    exact perm_append_append_of_perm (Child.roots_append_attached_perm child)
      (Child.rootsAll_append_attached_perm children)

theorem Child.roots_append_attached_perm (child : Child) :
    (child.roots ++ (child.attached ++ child.markups.flatMap Jsx.attached)).Perm
      child.markups := by
  cases child with
  | container span body => exact Node.roots_append_attached_perm body
  | spread span operand => exact Node.roots_append_attached_perm operand
  | jsx markup => exact Jsx.innerRoots_append_attached_perm markup
  | _ => exact .nil

end

end JsxVNode
