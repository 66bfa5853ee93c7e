import JsxVNode.Proofs.Compile.Closure
import JsxVNode.Proofs.Pass.Run
import JsxVNode.Proofs.Tree.Nodes

/-!
# What the pass keeps

A closed condition that holds of the identifiers in a tree and in its tags, and of the
names that are handed out by the end, holds of the tree after a visit without a fault.
-/

namespace JsxVNode

/-- A condition holds of the identifiers among some nodes and in the tags of some markup. -/
structure IdentsSatisfy (P : Node → Prop) (nodes : List Node) (markups : List Jsx) : Prop where
  idents : ∀ node ∈ nodes, ∀ ident ∈ node.ident?, P (.ident ident)
  tags : ∀ markup ∈ markups, ∀ ident ∈ markup.tagIdent?, P (.ident ident)

namespace IdentsSatisfy

variable {P : Node → Prop} {node : Node} {nodes nodes' : List Node} {markups markups' : List Jsx}

/-- What follows a node has its identifiers among those of the whole list. -/
theorem tail (h : IdentsSatisfy P (node :: nodes) markups) : IdentsSatisfy P nodes markups :=
  ⟨(List.forall_mem_cons.mp h.idents).2, h.tags⟩

theorem left (h : IdentsSatisfy P (nodes ++ nodes') (markups ++ markups')) :
    IdentsSatisfy P nodes markups :=
  ⟨(List.forall_mem_append.mp h.idents).1, (List.forall_mem_append.mp h.tags).1⟩

theorem right (h : IdentsSatisfy P (nodes ++ nodes') (markups ++ markups')) :
    IdentsSatisfy P nodes' markups' :=
  ⟨(List.forall_mem_append.mp h.idents).2, (List.forall_mem_append.mp h.tags).2⟩

end IdentsSatisfy

/-- Inside markup a closed condition holds of the expressions and of the identifiers in the tags,
which is what the compilation of the markup asks for. -/
structure PartsSatisfy (P : Node → Prop) (expressions : List Node) (parts : List Jsx) : Prop where
  expressions : ∀ node ∈ expressions, P node
  tags : ∀ part ∈ parts, ∀ ident ∈ part.tagIdent?, P (.ident ident)

namespace PartsSatisfy

variable {P : Node → Prop} {expressions expressions' : List Node} {parts parts' : List Jsx}

theorem nil : PartsSatisfy P [] [] := ⟨List.forall_mem_nil _, List.forall_mem_nil _⟩

theorem singleton {node : Node} (h : P node) : PartsSatisfy P [node] [] :=
  ⟨List.forall_mem_singleton.mpr h, List.forall_mem_nil _⟩

/-- Two lists of parts satisfy a condition together if each of them does. -/
theorem append (h : PartsSatisfy P expressions parts) (h' : PartsSatisfy P expressions' parts') :
    PartsSatisfy P (expressions ++ expressions') (parts ++ parts') :=
  ⟨List.forall_mem_append.mpr ⟨h.expressions, h'.expressions⟩,
    List.forall_mem_append.mpr ⟨h.tags, h'.tags⟩⟩

end PartsSatisfy

/-- The imports of a state lead wherever those of a later state lead. -/
theorem Pass.ImportsRequested.leadsTo {pass pass' : Pass} {imports : Imports}
    (h : pass.ImportsRequested pass') (hl : pass'.session.imports.LeadsTo imports) :
    pass.session.imports.LeadsTo imports := by
  obtain ⟨first, hf⟩ := h
  obtain ⟨second, hs⟩ := hl
  exact ⟨first ++ second, by rw [Imports.serveAll_append, ← hf, hs]⟩

variable {imports : Imports} {P : Node → Prop}

-- Of two neighbours the first is visited without a fault, since the second is, and its imports
-- lead to wherever those of the second lead.
mutual

/-- A closed condition on the identifiers of a node holds of the node after a visit. -/
theorem Node.visit_satisfies (h : Node.Closed imports P) (ctx : Context) (node : Node) {pass : Pass}
    (hf : (pass.exec (node.visit ctx)).2.fault = none)
    (hl : (pass.exec (node.visit ctx)).2.session.imports.LeadsTo imports)
    (hi : IdentsSatisfy P node.nodes node.markups) : P (pass.exec (node.visit ctx)).1 := by
  cases node with
  | hole => exact h.hole
  | ident name => exact hi.idents _ List.mem_cons_self name rfl
  | lit value => exact h.lit value
  | paren span body => exact (h.paren_iff _ _).mpr (Node.visit_satisfies h ctx body hf hl hi.tail)
  | array span elements =>
    exact (h.array_iff _ _).mpr (Node.visitAll_satisfies h ctx elements hf hl hi.tail)
  | object span properties =>
    exact (h.object_iff _ _).mpr (Node.visitAll_satisfies h ctx properties hf hl hi.tail)
  | spread dots operand =>
    exact (h.spread_iff _ _).mpr (Node.visit_satisfies h ctx operand hf hl hi.tail)
  | pair key value =>
    have hfk := Pass.fault_eq_none_of_exec (Node.exec_visit_of_fault ctx value) hf
    have hlk := (Node.kept_visit (Pass.kept_importsRequested ctx) value _).leadsTo hl
    exact h.pair (Node.visit_satisfies h ctx key hfk hlk hi.tail.left)
      (Node.visit_satisfies h ctx value hf hl hi.tail.right)
  | call span scope callee args =>
    have hfc := Pass.fault_eq_none_of_exec (Node.exec_visitAll_of_fault ctx args) hf
    have hlc := (Node.kept_visitAll (Pass.kept_importsRequested ctx) args _).leadsTo hl
    exact h.call _ _ (Node.visit_satisfies h ctx callee hfc hlc hi.tail.left)
      (Node.visitAll_satisfies h ctx args hf hl hi.tail.right)
  | jsx markup =>
    simp only [Node.visit, Pass.exec_bind] at hf hl ⊢
    have hfm := Pass.fault_eq_none_of_exec (Jsx.exec_replace_of_fault ctx _) hf
    have hlm := ((Pass.kept_importsRequested ctx).replace _ _).leadsTo hl
    have hparts := Jsx.visit_satisfies h ctx markup hfm hlm hi.tail
    exact Jsx.compile_yields h ctx _ hparts.expressions hparts.tags _ _ _
      (Jsx.returns_of_replace hf) hl
  | group items => exact h.group (Node.visitAll_satisfies h ctx items hf hl hi.tail)
  | form label parts => exact h.form label (Node.visitAll_satisfies h ctx parts hf hl hi.tail)

/-- Nodes satisfy a closed condition after a visit without a fault. -/
theorem Node.visitAll_satisfies (h : Node.Closed imports P) (ctx : Context) (nodes : List Node)
    {pass : Pass} (hf : (pass.exec (Node.visitAll ctx nodes)).2.fault = none)
    (hl : (pass.exec (Node.visitAll ctx nodes)).2.session.imports.LeadsTo imports)
    (hi : IdentsSatisfy P (Node.nodesAll nodes) (Node.markupsAll nodes)) :
    ∀ node ∈ (pass.exec (Node.visitAll ctx nodes)).1, P node := by
  cases nodes with
  | nil => exact List.forall_mem_nil _
  | cons node nodes =>
    have hfn := Pass.fault_eq_none_of_exec (Node.exec_visitAll_of_fault ctx nodes) hf
    have hln := (Node.kept_visitAll (Pass.kept_importsRequested ctx) nodes _).leadsTo hl
    exact List.forall_mem_cons.mpr ⟨Node.visit_satisfies h ctx node hfn hln hi.left,
      Node.visitAll_satisfies h ctx nodes hf hl hi.right⟩

/-- A closed condition on the identifiers of a piece of markup holds of the expressions in it after
a visit. -/
theorem Jsx.visit_satisfies (h : Node.Closed imports P) (ctx : Context) (markup : Jsx) {pass : Pass}
    (hf : (pass.exec (markup.visit ctx)).2.fault = none)
    (hl : (pass.exec (markup.visit ctx)).2.session.imports.LeadsTo imports)
    (hi : IdentsSatisfy P markup.nodes markup.markups) :
    PartsSatisfy P (pass.exec (markup.visit ctx)).1.expressions
      (pass.exec (markup.visit ctx)).1.parts := by
  cases markup with
  | element span opening attrs children closing =>
    have hfa := Pass.fault_eq_none_of_exec (Child.exec_visitAll_of_fault ctx children) hf
    have hla := (Child.kept_visitAll (Pass.kept_importsRequested ctx) children _).leadsTo hl
    rw [Jsx.nodes, Jsx.markups] at hi
    have htags := List.forall_mem_cons.mp hi.tags
    have hrest : IdentsSatisfy P (Attr.nodesAll attrs ++ Child.nodesAll children)
        (Attr.markupsAll attrs ++ Child.markupsAll children) := ⟨hi.idents, htags.2⟩
    have hparts := (Attr.visitAll_satisfies h ctx attrs hfa hla hrest.left).append
      (Child.visitAll_satisfies h ctx children hf hl hrest.right)
    exact ⟨hparts.expressions, List.forall_mem_cons.mpr ⟨htags.1, hparts.tags⟩⟩
  | fragment span opening closing children =>
    rw [Jsx.nodes, Jsx.markups] at hi
    have htags := List.forall_mem_cons.mp hi.tags
    have hparts := Child.visitAll_satisfies h ctx children hf hl ⟨hi.idents, htags.2⟩
    exact ⟨hparts.expressions, List.forall_mem_cons.mpr ⟨htags.1, hparts.tags⟩⟩

/-- The expressions and tags of visited attributes satisfy a closed condition. -/
theorem Attr.visitAll_satisfies (h : Node.Closed imports P) (ctx : Context) (attrs : List Attr)
    {pass : Pass} (hf : (pass.exec (Attr.visitAll ctx attrs)).2.fault = none)
    (hl : (pass.exec (Attr.visitAll ctx attrs)).2.session.imports.LeadsTo imports)
    (hi : IdentsSatisfy P (Attr.nodesAll attrs) (Attr.markupsAll attrs)) :
    PartsSatisfy P (Attr.expressionsAll (pass.exec (Attr.visitAll ctx attrs)).1)
      (Attr.partsAll (pass.exec (Attr.visitAll ctx attrs)).1) := by
  cases attrs with
  | nil => exact .nil
  | cons attr attrs =>
    have hfa := Pass.fault_eq_none_of_exec (Attr.exec_visitAll_of_fault ctx attrs) hf
    have hla := (Attr.kept_visitAll (Pass.kept_importsRequested ctx) attrs _).leadsTo hl
    exact (Attr.visit_satisfies h ctx attr hfa hla hi.left).append
      (Attr.visitAll_satisfies h ctx attrs hf hl hi.right)

/-- The expressions and tags of a visited attribute satisfy a closed condition. -/
theorem Attr.visit_satisfies (h : Node.Closed imports P) (ctx : Context) (attr : Attr) {pass : Pass}
    (hf : (pass.exec (attr.visit ctx)).2.fault = none)
    (hl : (pass.exec (attr.visit ctx)).2.session.imports.LeadsTo imports)
    (hi : IdentsSatisfy P attr.nodes attr.markups) :
    PartsSatisfy P (pass.exec (attr.visit ctx)).1.expressions
      (pass.exec (attr.visit ctx)).1.parts := by
  cases attr with
  | named span name value => exact AttrValue.visit_satisfies h ctx value hf hl hi
  | spread dots operand => exact .singleton (Node.visit_satisfies h ctx operand hf hl hi)

/-- The value of a visited attribute satisfies a closed condition, where it holds an expression or
markup. -/
theorem AttrValue.visit_satisfies (h : Node.Closed imports P) (ctx : Context) (value : AttrValue)
    {pass : Pass} (hf : (pass.exec (value.visit ctx)).2.fault = none)
    (hl : (pass.exec (value.visit ctx)).2.session.imports.LeadsTo imports)
    (hi : IdentsSatisfy P value.nodes value.markups) :
    PartsSatisfy P (pass.exec (value.visit ctx)).1.expressions
      (pass.exec (value.visit ctx)).1.parts := by
  cases value with
  | bare => exact .nil
  | lit value => exact .nil
  | container span body => exact .singleton (Node.visit_satisfies h ctx body hf hl hi)
  | empty span inner => exact .nil
  | jsx markup => exact Jsx.visit_satisfies h ctx markup hf hl hi

/-- The expressions and tags of visited children satisfy a closed condition. -/
theorem Child.visitAll_satisfies (h : Node.Closed imports P) (ctx : Context)
    (children : List Child) {pass : Pass}
    (hf : (pass.exec (Child.visitAll ctx children)).2.fault = none)
    (hl : (pass.exec (Child.visitAll ctx children)).2.session.imports.LeadsTo imports)
    (hi : IdentsSatisfy P (Child.nodesAll children) (Child.markupsAll children)) :
    PartsSatisfy P (Child.expressionsAll (pass.exec (Child.visitAll ctx children)).1)
      (Child.partsAll (pass.exec (Child.visitAll ctx children)).1) := by
  cases children with
  | nil => exact .nil
  | cons child children =>
    have hfc := Pass.fault_eq_none_of_exec (Child.exec_visitAll_of_fault ctx children) hf
    have hlc := (Child.kept_visitAll (Pass.kept_importsRequested ctx) children _).leadsTo hl
    exact (Child.visit_satisfies h ctx child hfc hlc hi.left).append
      (Child.visitAll_satisfies h ctx children hf hl hi.right)

/-- The expressions and tags of a visited child satisfy a closed condition. -/
theorem Child.visit_satisfies (h : Node.Closed imports P) (ctx : Context) (child : Child)
    {pass : Pass} (hf : (pass.exec (child.visit ctx)).2.fault = none)
    (hl : (pass.exec (child.visit ctx)).2.session.imports.LeadsTo imports)
    (hi : IdentsSatisfy P child.nodes child.markups) :
    PartsSatisfy P (pass.exec (child.visit ctx)).1.expressions
      (pass.exec (child.visit ctx)).1.parts := by
  cases child with
  | text span value raw => exact .nil
  | container span body => exact .singleton (Node.visit_satisfies h ctx body hf hl hi)
  | empty span inner => exact .nil
  | spread span operand => exact .singleton (Node.visit_satisfies h ctx operand hf hl hi)
  | jsx markup => exact Jsx.visit_satisfies h ctx markup hf hl hi

end

end JsxVNode
