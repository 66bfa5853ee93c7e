import JsxVNode.Compile.Element

/-!
# The markup of a tree

Every piece of markup that stands in a tree, at any depth and in any position: where
an expression may stand, between the tags of other markup, or directly as the value
of an attribute. A tree is free of markup if that list is empty.

The markup between tags and the direct attribute values are compiled together with
the piece they stand in; these pieces, and the expressions that stand in them, have
lists of their own.
-/

namespace JsxVNode

mutual

/-- Every piece of markup in a node. -/
def Node.markups : Node → List Jsx
  | .hole => []
  | .ident _ => []
  | .lit _ => []
  | .paren _ body => body.markups
  | .array _ elements => Node.markupsAll elements
  | .object _ properties => Node.markupsAll properties
  | .spread _ operand => operand.markups
  | .pair key value => key.markups ++ value.markups
  | .call _ _ callee args => callee.markups ++ Node.markupsAll args
  | .jsx markup => markup.markups
  | .group items => Node.markupsAll items
  | .form _ parts => Node.markupsAll parts

/-- Every piece of markup in several nodes. -/
def Node.markupsAll : List Node → List Jsx
  | [] => []
  | node :: nodes => node.markups ++ Node.markupsAll nodes

/-- A piece of markup and every piece inside it. -/
def Jsx.markups : Jsx → List Jsx
  | .element span opening attrs children closing =>
    .element span opening attrs children closing ::
      (Attr.markupsAll attrs ++ Child.markupsAll children)
  | .fragment span opening closing children =>
    .fragment span opening closing children :: Child.markupsAll children

/-- Every piece of markup in the attributes of a tag. -/
def Attr.markupsAll : List Attr → List Jsx
  | [] => []
  | attr :: attrs => attr.markups ++ Attr.markupsAll attrs

/-- Every piece of markup in an attribute. -/
def Attr.markups : Attr → List Jsx
  | .named _ _ value => value.markups
  | .spread _ operand => operand.markups

/-- Every piece of markup in the value of an attribute. -/
def AttrValue.markups : AttrValue → List Jsx
  | .bare => []
  | .lit _ => []
  | .container _ body => body.markups
  | .empty .. => []
  | .jsx markup => markup.markups

/-- Every piece of markup in the children of a tag. -/
def Child.markupsAll : List Child → List Jsx
  | [] => []
  | child :: children => child.markups ++ Child.markupsAll children

/-- Every piece of markup in a child. -/
def Child.markups : Child → List Jsx
  | .text .. => []
  | .container _ body => body.markups
  | .empty .. => []
  | .spread _ operand => operand.markups
  | .jsx markup => markup.markups

end

mutual

/-- The pieces that are compiled together with a piece of markup, that piece first. -/
def Jsx.parts : Jsx → List Jsx
  | .element span opening attrs children closing =>
    .element span opening attrs children closing ::
      (Attr.partsAll attrs ++ Child.partsAll children)
  | .fragment span opening closing children =>
    .fragment span opening closing children :: Child.partsAll children

/-- The pieces of markup that are direct attribute values, with their parts. -/
def Attr.partsAll : List Attr → List Jsx
  | [] => []
  | attr :: attrs => attr.parts ++ Attr.partsAll attrs

/-- The piece of markup that is an attribute's direct value, with its parts. -/
def Attr.parts : Attr → List Jsx
  | .named _ _ value => value.parts
  | .spread .. => []

/-- The piece of markup that is the value of an attribute, with its parts. -/
def AttrValue.parts : AttrValue → List Jsx
  | .jsx markup => markup.parts
  | _ => []

/-- The pieces of markup that are children, with their parts. -/
def Child.partsAll : List Child → List Jsx
  | [] => []
  | child :: children => child.parts ++ Child.partsAll children

/-- The piece of markup that is a child, with its parts. -/
def Child.parts : Child → List Jsx
  | .jsx markup => markup.parts
  | _ => []

end

mutual

/-- The expressions that stand in a piece of markup or in one of its parts. -/
def Jsx.expressions : Jsx → List Node
  | .element _ _ attrs children _ => Attr.expressionsAll attrs ++ Child.expressionsAll children
  | .fragment _ _ _ children => Child.expressionsAll children

/-- The expressions that stand in attributes. -/
def Attr.expressionsAll : List Attr → List Node
  | [] => []
  | attr :: attrs => attr.expressions ++ Attr.expressionsAll attrs

/-- The expressions that stand in an attribute. -/
def Attr.expressions : Attr → List Node
  | .named _ _ value => value.expressions
  | .spread _ operand => [operand]

/-- The expressions that stand in the value of an attribute. -/
def AttrValue.expressions : AttrValue → List Node
  | .container _ body => [body]
  | .jsx markup => markup.expressions
  | _ => []

/-- The expressions that stand in children. -/
def Child.expressionsAll : List Child → List Node
  | [] => []
  | child :: children => child.expressions ++ Child.expressionsAll children

/-- The expressions that stand in a child. -/
def Child.expressions : Child → List Node
  | .container _ body => [body]
  | .spread _ operand => [operand]
  | .jsx markup => markup.expressions
  | _ => []

end

/-- The first identifier of a dotted name. -/
def TagPath.base : TagPath → Ident
  | .ident name => name
  | .member _ object _ => object.base

/-- The identifier that a tag starts with. -/
def TagName.base? : TagName → Option Ident
  | .path dotted => some dotted.base
  | .qualified _ => none

/-- The identifier that the tag of a piece of markup starts with. -/
def Jsx.tagIdent? : Jsx → Option Ident
  | .element _ opening _ _ _ => opening.name.base?
  | .fragment .. => none

/-- A piece of markup is among the markup in it. -/
theorem Jsx.mem_markups_self (markup : Jsx) : markup ∈ markup.markups := by
  cases markup with
  | element span opening attrs children closing =>
    rw [Jsx.markups]
    exact List.mem_cons_self
  | fragment span opening closing children =>
    rw [Jsx.markups]
    exact List.mem_cons_self

/-- The markup in several nodes is the markup in each of them, in order. -/
theorem Node.markupsAll_eq_flatMap (nodes : List Node) :
    Node.markupsAll nodes = nodes.flatMap Node.markups := by
  induction nodes with
  | nil => rfl
  | cons node nodes ih => rw [Node.markupsAll, ih, List.flatMap_cons]

/-- The markup in attributes is that in each of them, in their order. -/
theorem Attr.markupsAll_eq_flatMap (attrs : List Attr) :
    Attr.markupsAll attrs = attrs.flatMap Attr.markups := by
  induction attrs with
  | nil => rfl
  | cons attr attrs ih => rw [Attr.markupsAll, ih, List.flatMap_cons]

/-- The markup in children is that in each of them, in their order. -/
theorem Child.markupsAll_eq_flatMap (children : List Child) :
    Child.markupsAll children = children.flatMap Child.markups := by
  induction children with
  | nil => rfl
  | cons child children ih => rw [Child.markupsAll, ih, List.flatMap_cons]

mutual

/-- The markup inside a piece of markup of a node is markup of the node. -/
theorem Node.markups_subset_of_mem (node : Node) {piece : Jsx} (h : piece ∈ node.markups) :
    piece.markups ⊆ node.markups := by
  cases node with
  | hole => cases h
  | ident name => cases h
  | lit value => cases h
  | paren span body => exact Node.markups_subset_of_mem body h
  | array span elements => exact Node.markupsAll_subset_of_mem elements h
  | object span properties => exact Node.markupsAll_subset_of_mem properties h
  | spread dots operand => exact Node.markups_subset_of_mem operand h
  | pair key value =>
    rcases List.mem_append.mp h with h | h
    · exact List.subset_append_of_subset_left _ (Node.markups_subset_of_mem key h)
    · exact List.subset_append_of_subset_right _ (Node.markups_subset_of_mem value h)
  | call span scope callee args =>
    rcases List.mem_append.mp h with h | h
    · exact List.subset_append_of_subset_left _ (Node.markups_subset_of_mem callee h)
    · exact List.subset_append_of_subset_right _ (Node.markupsAll_subset_of_mem args h)
  | jsx markup => exact Jsx.markups_subset_of_mem markup h
  | group items => exact Node.markupsAll_subset_of_mem items h
  | form label parts => exact Node.markupsAll_subset_of_mem parts h

/-- Nodes hold the markup that stands inside any markup they hold. -/
theorem Node.markupsAll_subset_of_mem (nodes : List Node) {piece : Jsx}
    (h : piece ∈ Node.markupsAll nodes) : piece.markups ⊆ Node.markupsAll nodes := by
  cases nodes with
  | nil => cases h
  | cons node nodes =>
    rcases List.mem_append.mp h with h | h
    · exact List.subset_append_of_subset_left _ (Node.markups_subset_of_mem node h)
    · exact List.subset_append_of_subset_right _ (Node.markupsAll_subset_of_mem nodes h)

/-- Markup holds the markup that stands inside any markup it holds. -/
theorem Jsx.markups_subset_of_mem (markup : Jsx) {piece : Jsx} (h : piece ∈ markup.markups) :
    piece.markups ⊆ markup.markups := by
  cases markup with
  | element span opening attrs children closing =>
    rw [Jsx.markups] at h
    rcases List.mem_cons.mp h with rfl | h
    · exact List.Subset.refl _
    · change piece.markups ⊆ _ :: (Attr.markupsAll attrs ++ Child.markupsAll children)
      apply List.subset_cons_of_subset
      rcases List.mem_append.mp h with h | h
      · exact List.subset_append_of_subset_left _ (Attr.markupsAll_subset_of_mem attrs h)
      · exact List.subset_append_of_subset_right _ (Child.markupsAll_subset_of_mem children h)
  | fragment span opening closing children =>
    rw [Jsx.markups] at h
    rcases List.mem_cons.mp h with rfl | h
    · exact List.Subset.refl _
    · exact List.subset_cons_of_subset _ (Child.markupsAll_subset_of_mem children h)

theorem Attr.markupsAll_subset_of_mem (attrs : List Attr) {piece : Jsx}
    (h : piece ∈ Attr.markupsAll attrs) : piece.markups ⊆ Attr.markupsAll attrs := by
  cases attrs with
  | nil => cases h
  | cons attr attrs =>
    rcases List.mem_append.mp h with h | h
    · exact List.subset_append_of_subset_left _ (Attr.markups_subset_of_mem attr h)
    · exact List.subset_append_of_subset_right _ (Attr.markupsAll_subset_of_mem attrs h)

theorem Attr.markups_subset_of_mem (attr : Attr) {piece : Jsx} (h : piece ∈ attr.markups) :
    piece.markups ⊆ attr.markups := by
  cases attr with
  | named span name value => exact AttrValue.markups_subset_of_mem value h
  | spread dots operand => exact Node.markups_subset_of_mem operand h

theorem AttrValue.markups_subset_of_mem (value : AttrValue) {piece : Jsx}
    (h : piece ∈ value.markups) : piece.markups ⊆ value.markups := by
  cases value with
  | container span body => exact Node.markups_subset_of_mem body h
  | jsx markup => exact Jsx.markups_subset_of_mem markup h
  | _ => cases h

theorem Child.markupsAll_subset_of_mem (children : List Child) {piece : Jsx}
    (h : piece ∈ Child.markupsAll children) : piece.markups ⊆ Child.markupsAll children := by
  cases children with
  | nil => cases h
  | cons child children =>
    rcases List.mem_append.mp h with h | h
    · exact List.subset_append_of_subset_left _ (Child.markups_subset_of_mem child h)
    · exact List.subset_append_of_subset_right _ (Child.markupsAll_subset_of_mem children h)

theorem Child.markups_subset_of_mem (child : Child) {piece : Jsx} (h : piece ∈ child.markups) :
    piece.markups ⊆ child.markups := by
  cases child with
  | container span body => exact Node.markups_subset_of_mem body h
  | spread span operand => exact Node.markups_subset_of_mem operand h
  | jsx markup => exact Jsx.markups_subset_of_mem markup h
  | _ => cases h

end

namespace Node

/-- A node holds no markup, at any depth. -/
def MarkupFree (node : Node) : Prop := node.markups = []

/-- There is no markup in a list of nodes if and only if there is none in any of them. -/
theorem markupsAll_eq_nil_iff {nodes : List Node} :
    markupsAll nodes = [] ↔ ∀ node ∈ nodes, node.MarkupFree := by
  rw [markupsAll_eq_flatMap, List.flatMap_eq_nil_iff]
  rfl

@[simp] theorem markupFree_hole : hole.MarkupFree := rfl

@[simp] theorem markupFree_ident (name : Ident) : (ident name).MarkupFree := rfl

@[simp] theorem markupFree_lit (value : Literal) : (lit value).MarkupFree := rfl

@[simp] theorem markupFree_paren_iff {span : Span} {body : Node} :
    (paren span body).MarkupFree ↔ body.MarkupFree := Iff.rfl

@[simp] theorem markupFree_array_iff {span : Span} {elements : List Node} :
    (array span elements).MarkupFree ↔ ∀ node ∈ elements, node.MarkupFree :=
  markupsAll_eq_nil_iff

@[simp] theorem markupFree_object_iff {span : Span} {properties : List Node} :
    (object span properties).MarkupFree ↔ ∀ node ∈ properties, node.MarkupFree :=
  markupsAll_eq_nil_iff

@[simp] theorem markupFree_spread_iff {dots : Span} {operand : Node} :
    (spread dots operand).MarkupFree ↔ operand.MarkupFree := Iff.rfl

@[simp] theorem markupFree_pair_iff {key value : Node} :
    (pair key value).MarkupFree ↔ key.MarkupFree ∧ value.MarkupFree :=
  List.append_eq_nil_iff

@[simp] theorem markupFree_call_iff {span : Span} {scope : Nat} {callee : Node}
    {args : List Node} :
    (call span scope callee args).MarkupFree ↔
      callee.MarkupFree ∧ ∀ node ∈ args, node.MarkupFree := by
  rw [← markupsAll_eq_nil_iff]
  exact List.append_eq_nil_iff

@[simp] theorem not_markupFree_jsx (markup : Jsx) : ¬ (jsx markup).MarkupFree :=
  List.ne_nil_of_mem markup.mem_markups_self

@[simp] theorem markupFree_group_iff {items : List Node} :
    (group items).MarkupFree ↔ ∀ node ∈ items, node.MarkupFree :=
  markupsAll_eq_nil_iff

@[simp] theorem markupFree_form_iff {label : Label} {parts : List Node} :
    (form label parts).MarkupFree ↔ ∀ node ∈ parts, node.MarkupFree :=
  markupsAll_eq_nil_iff

end Node

end JsxVNode
