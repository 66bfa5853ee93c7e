import JsxVNode.Proofs.Pass.Closure

/-!
# A compiled program is free of markup

Two recursions take the markup out of a program: the pass replaces the pieces that
stand where an expression may stand, the inner ones first, and the compilation of a
piece takes along those that stand directly in it. Together they reach every piece,
so a pass without a fault leaves none behind. A program without markup is left as it
is, whatever the options are.
-/

namespace JsxVNode

namespace Node

@[simp] theorem markupFree_str (value : String) : (str value).MarkupFree := rfl

@[simp] theorem markupFree_ref (name : String) : (ref name).MarkupFree := rfl

@[simp] theorem markupFree_invoke_iff {name : String} {args : List Node} :
    (invoke name args).MarkupFree ↔ ∀ node ∈ args, node.MarkupFree := by
  simp [invoke, callOf]

@[simp] theorem markupFree_member_iff {object : Node} {property : String} :
    (member object property).MarkupFree ↔ object.MarkupFree := by
  simp [member, plain]

/-- Compilation puts no markup in, whatever names are handed out. -/
theorem closed_markupFree (imports : Imports) : Closed imports MarkupFree where
  hole := markupFree_hole
  lit := markupFree_lit
  paren_iff _ _ := markupFree_paren_iff
  array_iff _ _ := markupFree_array_iff
  object_iff _ _ := markupFree_object_iff
  spread_iff _ _ := markupFree_spread_iff
  pair hk hv := markupFree_pair_iff.mpr ⟨hk, hv⟩
  pair_ref name _ hv := markupFree_pair_iff.mpr ⟨markupFree_ref name, hv⟩
  pair_value h := (markupFree_pair_iff.mp h).2
  pair_of_pair h hv := markupFree_pair_iff.mpr ⟨(markupFree_pair_iff.mp h).1, hv⟩
  call _ _ _ _ hc ha := markupFree_call_iff.mpr ⟨hc, ha⟩
  group hi := markupFree_group_iff.mpr hi
  form _ _ hp := markupFree_form_iff.mpr hp
  member _ ho := markupFree_member_iff.mpr ho
  handler ht := by simp [updateHandler, arrow, assign, plain, ht]
  ref _ := markupFree_ref _

end Node

/-- Nodes are free of markup after a visit without a fault. -/
theorem Node.markupFree_visitAll (ctx : Context) (nodes : List Node) {pass : Pass}
    (h : (pass.exec (Node.visitAll ctx nodes)).2.fault = none) :
    ∀ node ∈ (pass.exec (Node.visitAll ctx nodes)).1, node.MarkupFree :=
  Node.visitAll_satisfies (Node.closed_markupFree _) ctx nodes h (.refl _)
    ⟨fun _ _ ident _ => markupFree_ident ident, fun _ _ ident _ => markupFree_ident ident⟩

mutual

/-- A visit changes nothing in a node without markup, and no state. -/
theorem Node.MarkupFree.exec_visit (ctx : Context) (node : Node) (pass : Pass)
    (h : node.MarkupFree) : pass.exec (node.visit ctx) = (node, pass) := by
  cases node with
  | hole => rfl
  | ident name => rfl
  | lit value => rfl
  | paren span body =>
    simp only [Node.visit, Pass.exec_bind, Node.MarkupFree.exec_visit ctx body pass h,
      Pass.exec_pure]
  | array span elements =>
    have he := Node.markupFree_array_iff.mp h
    simp only [Node.visit, Pass.exec_bind, Node.MarkupFree.exec_visitAll ctx elements pass he,
      Pass.exec_pure]
  | object span properties =>
    have hp := Node.markupFree_object_iff.mp h
    simp only [Node.visit, Pass.exec_bind, Node.MarkupFree.exec_visitAll ctx properties pass hp,
      Pass.exec_pure]
  | spread dots operand =>
    simp only [Node.visit, Pass.exec_bind, Node.MarkupFree.exec_visit ctx operand pass h,
      Pass.exec_pure]
  | pair key value =>
    have hp := Node.markupFree_pair_iff.mp h
    simp only [Node.visit, Pass.exec_bind, Node.MarkupFree.exec_visit ctx key pass hp.1,
      Node.MarkupFree.exec_visit ctx value pass hp.2, Pass.exec_pure]
  | call span scope callee args =>
    have hc := Node.markupFree_call_iff.mp h
    simp only [Node.visit, Pass.exec_bind, Node.MarkupFree.exec_visit ctx callee pass hc.1,
      Node.MarkupFree.exec_visitAll ctx args pass hc.2, Pass.exec_pure]
  | jsx markup => exact absurd h (Node.not_markupFree_jsx markup)
  | group items =>
    have hi := Node.markupFree_group_iff.mp h
    simp only [Node.visit, Pass.exec_bind, Node.MarkupFree.exec_visitAll ctx items pass hi,
      Pass.exec_pure]
  | form label parts =>
    have hp := Node.markupFree_form_iff.mp h
    simp only [Node.visit, Pass.exec_bind, Node.MarkupFree.exec_visitAll ctx parts pass hp,
      Pass.exec_pure]

/-- Nodes without markup are visited without any change. -/
theorem Node.MarkupFree.exec_visitAll (ctx : Context) (nodes : List Node) (pass : Pass)
    (h : ∀ node ∈ nodes, node.MarkupFree) :
    pass.exec (Node.visitAll ctx nodes) = (nodes, pass) := by
  cases nodes with
  | nil => rfl
  | cons node nodes =>
    have hc := List.forall_mem_cons.mp h
    simp only [Node.visitAll, Pass.exec_bind, Node.MarkupFree.exec_visit ctx node pass hc.1,
      Node.MarkupFree.exec_visitAll ctx nodes pass hc.2, Pass.exec_pure]

end

/-- A program without markup compiles to itself, with nothing replaced and nothing injected. -/
theorem Program.compile_of_markupFree {program : Program}
    (h : ∀ node ∈ program.body, node.MarkupFree) (options : Options) (annotate : Bool) :
    program.compile options annotate = ⟨program, .ok 0, []⟩ := by
  have hv : program.visited options annotate =
      (program.body, ⟨.new (program.context options annotate), 0, none⟩) :=
    Node.MarkupFree.exec_visitAll _ program.body _ h
  rw [Program.compile_of_fault_eq_none (by rw [hv]), hv]
  rfl

/-- An import declaration has no markup in it. -/
theorem markupFree_importDeclaration (source : String) (entries : List Import) :
    (importDeclaration source entries).MarkupFree := by
  have hs : ∀ node ∈ entries.map (·.specifier), node.MarkupFree := by
    intro node hn
    obtain ⟨entry, _, rfl⟩ := List.mem_map.mp hn
    unfold Import.specifier
    split <;> simp [Node.plain]
  simpa [importDeclaration] using hs

/-- A declaration that calls `require` has no markup in it. -/
theorem markupFree_requireDeclaration (source : String) (entries : List Import) :
    (requireDeclaration source entries).MarkupFree := by
  have hp : ∀ node ∈ requireProperties entries, node.MarkupFree := by
    intro node hn
    obtain ⟨entry, _, he⟩ := List.mem_filterMap.mp hn
    split at he
    · cases he
      simp [Node.plain]
    · cases he
  have hd : ∀ node ∈ requireDefaults source entries, node.MarkupFree := by
    intro node hn
    obtain ⟨entry, _, he⟩ := List.mem_filterMap.mp hn
    split at he
    · cases he
    · cases he
      simp [Node.declarator, Node.plain, requireCall]
  unfold requireDeclaration
  dsimp only
  split
  · simpa [Node.constants] using hd
  · simpa [Node.constants, Node.declarator, Node.plain, requireCall] using ⟨hp, hd⟩

/-- Everything that is put at the head of a file is free of markup. -/
theorem Imports.markupFree_declarations (imports : Imports) (kind : ProgramKind) :
    ∀ node ∈ imports.declarations kind, node.MarkupFree := by
  intro node hn
  rcases List.mem_append.mp hn with hn | hn
  · obtain ⟨source, _, rfl⟩ := List.mem_map.mp hn
    cases kind with
    | module => exact markupFree_importDeclaration _ _
    | script => exact markupFree_requireDeclaration _ _
  · unfold Imports.slotTestDeclarations at hn
    split at hn
    · rw [List.mem_singleton.mp hn]
      rfl
    · cases hn

namespace Program

/-- A program that compiles has no markup left, at any depth and in any position. Compiling it
once more, under any options, replaces nothing, injects nothing and changes nothing. -/
theorem compile_leaves_no_markup (options : Options) (annotate : Bool) (program : Program)
    (count : Nat) (h : (program.compile options annotate).result = .ok count) :
    Node.markupsAll (program.compile options annotate).program.body = [] ∧
      ∀ (options' : Options) (annotate' : Bool),
        (program.compile options annotate).program.compile options' annotate' =
          ⟨(program.compile options annotate).program, .ok 0, []⟩ := by
  have hf := fault_eq_none_of_result h
  have hfree : ∀ node ∈ (program.compile options annotate).program.body, node.MarkupFree := by
    rw [compile_of_fault_eq_none hf]
    exact List.forall_mem_append.mpr
      ⟨Imports.markupFree_declarations _ _, Node.markupFree_visitAll _ program.body hf⟩
  exact ⟨Node.markupsAll_eq_nil_iff.mpr hfree, compile_of_markupFree hfree⟩

/-- Of the three pieces of markup in the sample, none is left. -/
theorem sample_compile_leaves_no_markup :
    (sample.compile .default true).result = .ok 2 ∧
      Node.markupsAll (sample.compile .default true).program.body = [] ∧
      ∀ (options' : Options) (annotate' : Bool),
        (sample.compile .default true).program.compile options' annotate' =
          ⟨(sample.compile .default true).program, .ok 0, []⟩ :=
  ⟨rfl, compile_leaves_no_markup .default true sample 2 rfl⟩

end Program

end JsxVNode
