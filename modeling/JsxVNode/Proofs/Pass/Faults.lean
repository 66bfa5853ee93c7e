import JsxVNode.Proofs.Compile.Faults
import JsxVNode.Proofs.Pass.Run

/-!
# When the pass ends with a fault

The pass checks a directive after the markup inside its value has been replaced.
Replacing markup gives a node alike to it, so the checks give what they would give
on the program as it was written. A visit has a fault after it exactly if there was
one before it or some markup in the visited tree is faulty, and a program fails to
compile exactly if some markup in it is faulty.
-/

namespace JsxVNode

/-- In the place of markup there is markup or a call of a name after a replacement. -/
theorem Jsx.replace_satisfies {Q : Node → Prop} (hjsx : ∀ markup, Q (.jsx markup))
    (hcall : ∀ name args, Q (.invoke name args)) (ctx : Context) (markup : Jsx) (pass : Pass) :
    Q (pass.exec (markup.replace ctx)).1 := by
  have hr := Jsx.replaced ctx markup pass
  generalize pass.exec (markup.replace ctx) = result at hr ⊢
  cases hr with
  | ended _ => exact hjsx markup
  | compiled _ hr => exact Compile.compile_yields_invoke hcall ctx markup _ _ _ hr
  | failed _ _ => exact hjsx markup

/-- What replaces markup cannot be assigned to or taken apart, whether or not there is a fault. -/
theorem Jsx.isOther_replace (ctx : Context) (markup : Jsx) (pass : Pass) :
    (pass.exec (markup.replace ctx)).1.isOther = true :=
  Jsx.replace_satisfies (Q := (·.isOther = true)) (fun _ => rfl) (fun _ _ => rfl) ctx markup pass

mutual

/-- A visit changes nothing of the outer shape of a node. -/
theorem Node.alike_visit (ctx : Context) (node : Node) (pass : Pass) :
    Node.Alike node (pass.exec (node.visit ctx)).1 := by
  cases node with
  | hole => exact .refl _
  | ident name => exact .refl _
  | lit value => exact .refl _
  | paren span body => exact .paren span (Node.alike_visit ctx body pass)
  | array span elements => exact .array span (Node.alike_visitAll ctx elements pass)
  | object span properties => exact .other rfl rfl
  | spread dots operand => exact .spread dots (Node.alike_visit ctx operand pass)
  | pair key value => exact .other rfl rfl
  | call span scope callee args => exact .other rfl rfl
  | jsx markup => exact .other rfl (Jsx.isOther_replace ctx _ _)
  | group items => exact .other rfl rfl
  | form label parts => exact .form label parts _

theorem Node.alike_visitAll (ctx : Context) (nodes : List Node) (pass : Pass) :
    List.Forall₂ Node.Alike nodes (pass.exec (Node.visitAll ctx nodes)).1 := by
  cases nodes with
  | nil => exact .nil
  | cons node nodes =>
    exact .cons (Node.alike_visit ctx node pass) (Node.alike_visitAll ctx nodes _)

end

/-- A visit keeps the faults of an attribute. -/
theorem Attr.faulty_visit_iff (ctx : Context) (isComponent : Bool) (attr : Attr) (pass : Pass) :
    (pass.exec (attr.visit ctx)).1.Faulty isComponent ↔ attr.Faulty isComponent := by
  cases attr with
  | spread dots operand => exact Iff.rfl
  | named span name value =>
    cases value with
    | container span body =>
      exact (directiveFault_iff_of_alike (.some (Node.alike_visit ctx body pass))).symm
    | jsx markup => exact directiveFault_iff_of_alike (.some (.other rfl rfl))
    | _ => exact Iff.rfl

/-- A visit leaves faulty attributes faulty, and makes no others. -/
theorem Attr.exists_faulty_visitAll_iff (ctx : Context) (isComponent : Bool) (attrs : List Attr)
    (pass : Pass) :
    (∃ attr ∈ (pass.exec (Attr.visitAll ctx attrs)).1, attr.Faulty isComponent) ↔
      ∃ attr ∈ attrs, attr.Faulty isComponent := by
  induction attrs generalizing pass with
  | nil => exact Iff.rfl
  | cons attr attrs ih =>
    simp only [Attr.visitAll, Pass.exec_bind, Pass.exec_pure, List.exists_mem_cons_iff]
    rw [Attr.faulty_visit_iff, ih]

/-- After a replacement there is a fault exactly if there was one before it or a part of the
markup is faulty. -/
theorem Jsx.fault_replace_iff (ctx : Context) (markup : Jsx) (pass : Pass) :
    (pass.exec (markup.replace ctx)).2.fault.isSome = true ↔
      pass.fault.isSome = true ∨ ∃ part ∈ markup.parts, part.Faulty ctx.options := by
  rw [← Jsx.fails_compile_iff ctx markup (s := pass.session)]
  have hr := Jsx.replaced ctx markup pass
  generalize pass.exec (markup.replace ctx) = result at hr ⊢
  cases hr with
  | ended hs => exact iff_of_true hs (Or.inl hs)
  | compiled hn hr =>
    have hf : ¬ (markup.compile ctx).Fails pass.session := Compile.not_fails_of_returns hr
    simp only [hn, hf, Option.isSome_none, Bool.false_eq_true, or_self]
  | failed _ hf => exact iff_of_true rfl (Or.inr ⟨_, _, hf⟩)

/-- Two visits in a row: `f₀`, `f₁` and `f₂` tell whether there is a fault before, between and
after them. -/
private theorem fault_or_trans {f₀ f₁ f₂ left left' right right' : Prop}
    (hl : f₁ ∨ left' ↔ f₀ ∨ left) (hr : f₂ ∨ right' ↔ f₁ ∨ right) :
    f₂ ∨ left' ∨ right' ↔ f₀ ∨ left ∨ right := by
  calc
    f₂ ∨ left' ∨ right' ↔ left' ∨ f₂ ∨ right' := or_left_comm
    _ ↔ left' ∨ f₁ ∨ right := or_congr_right hr
    _ ↔ (f₁ ∨ left') ∨ right := by rw [or_left_comm, or_assoc]
    _ ↔ (f₀ ∨ left) ∨ right := or_congr_left hl
    _ ↔ f₀ ∨ left ∨ right := or_assoc

-- Inside markup a fault may still be to come: the pieces that are compiled together are only
-- checked when the outermost of them is replaced. So there the statement counts the faulty parts
-- of the visited markup as faults.
mutual

/-- After visiting a node there is a fault exactly if there was one before or some markup in the
node is faulty. -/
theorem Node.fault_visit_iff (ctx : Context) (node : Node) (pass : Pass) :
    (pass.exec (node.visit ctx)).2.fault.isSome = true ↔
      pass.fault.isSome = true ∨ ∃ markup ∈ node.markups, markup.Faulty ctx.options := by
  cases node with
  | hole => simp [Node.visit, Node.markups]
  | ident name => simp [Node.visit, Node.markups]
  | lit value => simp [Node.visit, Node.markups]
  | paren span body => exact Node.fault_visit_iff ctx body pass
  | array span elements => exact Node.fault_visitAll_iff ctx elements pass
  | object span properties => exact Node.fault_visitAll_iff ctx properties pass
  | spread dots operand => exact Node.fault_visit_iff ctx operand pass
  | pair key value =>
    simp only [Node.visit, Pass.exec_bind, Pass.exec_pure, Node.markups, List.mem_append,
      or_and_right, exists_or]
    rw [Node.fault_visit_iff ctx value, Node.fault_visit_iff ctx key, or_assoc]
  | call span scope callee args =>
    simp only [Node.visit, Pass.exec_bind, Pass.exec_pure, Node.markups, List.mem_append,
      or_and_right, exists_or]
    rw [Node.fault_visitAll_iff ctx args, Node.fault_visit_iff ctx callee, or_assoc]
  | jsx markup =>
    simp only [Node.visit, Pass.exec_bind, Node.markups]
    rw [Jsx.fault_replace_iff, Jsx.fault_visit_iff ctx markup pass]
  | group items => exact Node.fault_visitAll_iff ctx items pass
  | form label parts => exact Node.fault_visitAll_iff ctx parts pass

/-- After a visit of nodes there is a fault if there was one before or some markup in them is
faulty. -/
theorem Node.fault_visitAll_iff (ctx : Context) (nodes : List Node) (pass : Pass) :
    (pass.exec (Node.visitAll ctx nodes)).2.fault.isSome = true ↔
      pass.fault.isSome = true ∨
        ∃ markup ∈ Node.markupsAll nodes, markup.Faulty ctx.options := by
  cases nodes with
  | nil => simp [Node.visitAll, Node.markupsAll]
  | cons node nodes =>
    simp only [Node.visitAll, Pass.exec_bind, Pass.exec_pure, Node.markupsAll, List.mem_append,
      or_and_right, exists_or]
    rw [Node.fault_visitAll_iff ctx nodes, Node.fault_visit_iff ctx node, or_assoc]

/-- After visiting markup there is a fault or a faulty part exactly if there was a fault before or
some markup in it is faulty. -/
theorem Jsx.fault_visit_iff (ctx : Context) (markup : Jsx) (pass : Pass) :
    ((pass.exec (markup.visit ctx)).2.fault.isSome = true ∨
        ∃ part ∈ (pass.exec (markup.visit ctx)).1.parts, part.Faulty ctx.options) ↔
      pass.fault.isSome = true ∨ ∃ inner ∈ markup.markups, inner.Faulty ctx.options := by
  cases markup with
  | element span opening attrs children closing =>
    simp only [Jsx.visit, Pass.exec_bind, Pass.exec_pure, Jsx.parts, Jsx.markups,
      List.exists_mem_cons_iff, List.mem_append, or_and_right, exists_or, Jsx.faulty_element_iff,
      Attr.exists_faulty_visitAll_iff]
    rw [or_left_comm, @or_left_comm (pass.fault.isSome = true)]
    exact or_congr_right (fault_or_trans (Attr.fault_visitAll_iff ctx attrs pass)
      (Child.fault_visitAll_iff ctx children _))
  | fragment span opening closing children =>
    simp only [Jsx.visit, Pass.exec_bind, Pass.exec_pure, Jsx.parts, Jsx.markups,
      List.exists_mem_cons_iff, Jsx.not_faulty_fragment, false_or]
    exact Child.fault_visitAll_iff ctx children pass

/-- Attributes have a fault in them after a visit if and only if the visit met one or left one to
their compilation. -/
theorem Attr.fault_visitAll_iff (ctx : Context) (attrs : List Attr) (pass : Pass) :
    ((pass.exec (Attr.visitAll ctx attrs)).2.fault.isSome = true ∨
        ∃ part ∈ Attr.partsAll (pass.exec (Attr.visitAll ctx attrs)).1,
          part.Faulty ctx.options) ↔
      pass.fault.isSome = true ∨
        ∃ markup ∈ Attr.markupsAll attrs, markup.Faulty ctx.options := by
  cases attrs with
  | nil => simp [Attr.visitAll, Attr.partsAll, Attr.markupsAll]
  | cons attr attrs =>
    simp only [Attr.visitAll, Pass.exec_bind, Pass.exec_pure, Attr.partsAll, Attr.markupsAll,
      List.mem_append, or_and_right, exists_or]
    exact fault_or_trans (Attr.fault_visit_iff ctx attr pass)
      (Attr.fault_visitAll_iff ctx attrs _)

theorem Attr.fault_visit_iff (ctx : Context) (attr : Attr) (pass : Pass) :
    ((pass.exec (attr.visit ctx)).2.fault.isSome = true ∨
        ∃ part ∈ (pass.exec (attr.visit ctx)).1.parts, part.Faulty ctx.options) ↔
      pass.fault.isSome = true ∨ ∃ markup ∈ attr.markups, markup.Faulty ctx.options := by
  cases attr with
  | named span name value => exact AttrValue.fault_visit_iff ctx value pass
  | spread dots operand =>
    exact (or_iff_left (by rintro ⟨_, ⟨⟩, _⟩)).trans (Node.fault_visit_iff ctx operand pass)

/-- The value of an attribute keeps the faults of attached markup, and the visit meets those of the
roots. -/
theorem AttrValue.fault_visit_iff (ctx : Context) (value : AttrValue) (pass : Pass) :
    ((pass.exec (value.visit ctx)).2.fault.isSome = true ∨
        ∃ part ∈ (pass.exec (value.visit ctx)).1.parts, part.Faulty ctx.options) ↔
      pass.fault.isSome = true ∨ ∃ markup ∈ value.markups, markup.Faulty ctx.options := by
  cases value with
  | container span body =>
    exact (or_iff_left (by rintro ⟨_, ⟨⟩, _⟩)).trans (Node.fault_visit_iff ctx body pass)
  | jsx markup => exact Jsx.fault_visit_iff ctx markup pass
  | _ => simp [AttrValue.visit, AttrValue.parts, AttrValue.markups]

theorem Child.fault_visitAll_iff (ctx : Context) (children : List Child) (pass : Pass) :
    ((pass.exec (Child.visitAll ctx children)).2.fault.isSome = true ∨
        ∃ part ∈ Child.partsAll (pass.exec (Child.visitAll ctx children)).1,
          part.Faulty ctx.options) ↔
      pass.fault.isSome = true ∨
        ∃ markup ∈ Child.markupsAll children, markup.Faulty ctx.options := by
  cases children with
  | nil => simp [Child.visitAll, Child.partsAll, Child.markupsAll]
  | cons child children =>
    simp only [Child.visitAll, Pass.exec_bind, Pass.exec_pure, Child.partsAll, Child.markupsAll,
      List.mem_append, or_and_right, exists_or]
    exact fault_or_trans (Child.fault_visit_iff ctx child pass)
      (Child.fault_visitAll_iff ctx children _)

/-- A child keeps the faults of attached markup, and the visit meets those of the roots. -/
theorem Child.fault_visit_iff (ctx : Context) (child : Child) (pass : Pass) :
    ((pass.exec (child.visit ctx)).2.fault.isSome = true ∨
        ∃ part ∈ (pass.exec (child.visit ctx)).1.parts, part.Faulty ctx.options) ↔
      pass.fault.isSome = true ∨ ∃ markup ∈ child.markups, markup.Faulty ctx.options := by
  cases child with
  | container span body =>
    exact (or_iff_left (by rintro ⟨_, ⟨⟩, _⟩)).trans (Node.fault_visit_iff ctx body pass)
  | spread span operand =>
    exact (or_iff_left (by rintro ⟨_, ⟨⟩, _⟩)).trans (Node.fault_visit_iff ctx operand pass)
  | jsx markup => exact Jsx.fault_visit_iff ctx markup pass
  | _ => simp [Child.visit, Child.parts, Child.markups]

end

namespace Program

/-- A program fails to compile exactly if some markup in it, at any depth and in any position, is
faulty: an element with a colon in its tag, or with a model directive that has no expression in
braces, binds several models on something that is not a component, binds them by something else
than an array of arrays, or binds a value that is missing or cannot be assigned to. -/
theorem compile_error_iff_faulty (options : Options) (annotate : Bool) (program : Program) :
    (∃ fault, (program.compile options annotate).result = .error fault) ↔
      ∃ markup ∈ Node.markupsAll program.body, markup.Faulty options := by
  have hv : (program.visited options annotate).2.fault.isSome = true ↔
      ∃ markup ∈ Node.markupsAll program.body, markup.Faulty options := by
    rw [visited, Node.fault_visitAll_iff]
    simp [context]
  rw [← hv]
  cases hf : (program.visited options annotate).2.fault with
  | some fault => exact iff_of_true ⟨fault, compile_result_of_fault_eq_some hf⟩ rfl
  | none =>
    rw [compile_of_fault_eq_none hf]
    exact iff_of_false (by rintro ⟨_, ⟨⟩⟩) (by rintro ⟨⟩)

end Program

end JsxVNode
