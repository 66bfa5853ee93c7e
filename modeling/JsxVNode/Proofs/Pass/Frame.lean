import JsxVNode.Proofs.Pass.Run
import JsxVNode.Proofs.Tree.Outermost
import Mathlib.Data.List.Forall2

/-!
# What the pass leaves as it is

A program that compiles becomes a list of declarations followed by its own items, in
which each outermost piece of markup is replaced by the expression it compiles to and
everything else stands as it stood. Nothing is declared exactly if nothing was
requested from the runtime.
-/

namespace JsxVNode

/-- Markup compiles to an expression, in some state of the pass, once it has been visited. -/
def Jsx.CompilesTo (ctx : Context) (markup : Jsx) (expr : Node) : Prop :=
  ∃ (pass : Pass) (session : Session),
    ((pass.exec (markup.visit ctx)).1.compile ctx).Returns
      (pass.exec (markup.visit ctx)).2.session expr session

/-- A node becomes another one by replacing its outermost markup by expressions that are related
to it. -/
structure Node.FilledBy (R : Jsx → Node → Prop) (node : Node) (exprs : List Node) (result : Node) :
    Prop where
  compiled : List.Forall₂ R node.outermost exprs
  fill : ∀ rest, node.fill (exprs ++ rest) = (result, rest)

/-- Several nodes become others by replacing their outermost markup by expressions that are related
to it. -/
structure Node.AllFilledBy (R : Jsx → Node → Prop) (nodes : List Node)
    (exprs results : List Node) : Prop where
  compiled : List.Forall₂ R (Node.outermostAll nodes) exprs
  fill : ∀ rest, Node.fillAll nodes (exprs ++ rest) = (results, rest)

/-- Markup where an expression may stand is replaced by related expressions, in every state of the
pass in which `P` holds, and `P` is kept. -/
structure Pass.Fills (ctx : Context) (P : Pass → Prop) (R : Jsx → Node → Prop) : Prop where
  kept : Pass.Kept ctx fun pass pass' => P pass → P pass'
  replaced : ∀ {markup : Jsx} {pass : Pass}, P pass →
    (pass.exec ((Node.jsx markup).visit ctx)).2.fault = none →
    R markup (pass.exec ((Node.jsx markup).visit ctx)).1

section

variable {ctx : Context} {P : Pass → Prop} {R : Jsx → Node → Prop}

-- The expressions of two neighbours are appended; that the fill is stated for any expressions
-- after its own is what lets the second neighbour take over where the first one stops.
mutual

/-- A visit without a fault replaces the outermost markup of a node and nothing else. -/
theorem Node.filledBy_visit (hf : Pass.Fills ctx P R) (node : Node) {pass : Pass} (hp : P pass)
    (h : (pass.exec (node.visit ctx)).2.fault = none) :
    ∃ exprs, node.FilledBy R exprs (pass.exec (node.visit ctx)).1 := by
  cases node with
  | hole => exact ⟨[], .nil, fun _ => rfl⟩
  | ident name => exact ⟨[], .nil, fun _ => rfl⟩
  | lit value => exact ⟨[], .nil, fun _ => rfl⟩
  | paren span body =>
    obtain ⟨exprs, hb⟩ := Node.filledBy_visit hf body hp h
    exact ⟨exprs, hb.compiled, fun rest => by rw [Node.fill, hb.fill]; rfl⟩
  | array span elements =>
    obtain ⟨exprs, he⟩ := Node.allFilledBy_visitAll hf elements hp h
    exact ⟨exprs, he.compiled, fun rest => by rw [Node.fill, he.fill]; rfl⟩
  | object span properties =>
    obtain ⟨exprs, hs⟩ := Node.allFilledBy_visitAll hf properties hp h
    exact ⟨exprs, hs.compiled, fun rest => by rw [Node.fill, hs.fill]; rfl⟩
  | spread dots operand =>
    obtain ⟨exprs, ho⟩ := Node.filledBy_visit hf operand hp h
    exact ⟨exprs, ho.compiled, fun rest => by rw [Node.fill, ho.fill]; rfl⟩
  | pair key value =>
    have hn := Pass.fault_eq_none_of_exec (Node.exec_visit_of_fault ctx value) h
    obtain ⟨first, hk⟩ := Node.filledBy_visit hf key hp hn
    obtain ⟨second, hv⟩ := Node.filledBy_visit hf value (Node.kept_visit hf.kept key pass hp) h
    refine ⟨first ++ second, List.rel_append hk.compiled hv.compiled, fun rest => ?_⟩
    rw [Node.fill, List.append_assoc, hk.fill]
    dsimp only
    rw [hv.fill]
    rfl
  | call span scope callee args =>
    have hn := Pass.fault_eq_none_of_exec (Node.exec_visitAll_of_fault ctx args) h
    obtain ⟨first, hc⟩ := Node.filledBy_visit hf callee hp hn
    obtain ⟨second, ha⟩ := Node.allFilledBy_visitAll hf args
      (Node.kept_visit hf.kept callee pass hp) h
    refine ⟨first ++ second, List.rel_append hc.compiled ha.compiled, fun rest => ?_⟩
    rw [Node.fill, List.append_assoc, hc.fill]
    dsimp only
    rw [ha.fill]
    rfl
  | jsx markup => exact ⟨_, .cons (hf.replaced hp h) .nil, fun _ => rfl⟩
  | group items =>
    obtain ⟨exprs, hi⟩ := Node.allFilledBy_visitAll hf items hp h
    exact ⟨exprs, hi.compiled, fun rest => by rw [Node.fill, hi.fill]; rfl⟩
  | form label parts =>
    obtain ⟨exprs, hs⟩ := Node.allFilledBy_visitAll hf parts hp h
    exact ⟨exprs, hs.compiled, fun rest => by rw [Node.fill, hs.fill]; rfl⟩

/-- A visit without a fault replaces the outermost markup of several nodes and nothing else. -/
theorem Node.allFilledBy_visitAll (hf : Pass.Fills ctx P R) (nodes : List Node) {pass : Pass}
    (hp : P pass) (h : (pass.exec (Node.visitAll ctx nodes)).2.fault = none) :
    ∃ exprs, Node.AllFilledBy R nodes exprs (pass.exec (Node.visitAll ctx nodes)).1 := by
  cases nodes with
  | nil => exact ⟨[], .nil, fun _ => rfl⟩
  | cons node nodes =>
    have hn := Pass.fault_eq_none_of_exec (Node.exec_visitAll_of_fault ctx nodes) h
    obtain ⟨first, hd⟩ := Node.filledBy_visit hf node hp hn
    obtain ⟨second, hs⟩ := Node.allFilledBy_visitAll hf nodes
      (Node.kept_visit hf.kept node pass hp) h
    refine ⟨first ++ second, List.rel_append hd.compiled hs.compiled, fun rest => ?_⟩
    rw [Node.fillAll, List.append_assoc, hd.fill]
    dsimp only
    rw [hs.fill]
    rfl

end

/-- Markup is replaced by what it compiles to. -/
theorem Pass.fills_compilesTo (ctx : Context) :
    Pass.Fills ctx (fun _ => True) (Jsx.CompilesTo ctx) where
  kept := ⟨fun _ => id, fun _ _ => id, fun _ _ => id⟩
  replaced {markup pass} _ h := by
    simp only [Node.visit, Pass.exec_bind] at h ⊢
    exact ⟨pass, _, Jsx.returns_of_replace h⟩

end

namespace Program

/-- The imports that the compilation of a program has requested when the pass ends. -/
def requestedImports (options : Options) (annotate : Bool) (program : Program) : Imports :=
  (program.visited options annotate).2.session.imports

/-- How a compiled program is made from the program it comes from: `exprs` are the expressions
that replace markup, and `items` is the old body with these in place. -/
structure Frame (options : Options) (annotate : Bool) (program : Program)
    (exprs items : List Node) : Prop where
  /-- Only the body changes; the declarations of the requested imports stand before the items. -/
  output : (program.compile options annotate).program = { program with
    body := (program.requestedImports options annotate).declarations program.kind ++ items }
  /-- There are as many items as there were. -/
  length : items.length = program.body.length
  /-- There is one expression for each outermost piece of markup, the one it compiles to. -/
  compiled : List.Forall₂ (Jsx.CompilesTo (program.context options annotate))
    (Node.outermostAll program.body) exprs
  /-- The items are the old body with the expressions in place of the markup, all used up. -/
  fill : Node.fillAll program.body exprs = (items, [])
  /-- The imports are those of a list of requests. -/
  requested : ∃ requests, program.requestedImports options annotate =
    (Imports.new options (.ofProgram program)).serveAll requests
  /-- Whatever was requested, nothing is declared exactly if it was nothing. -/
  declared : ∀ requests, program.requestedImports options annotate =
      (Imports.new options (.ofProgram program)).serveAll requests →
    ((program.requestedImports options annotate).declarations program.kind = [] ↔ requests = [])

/-- A program that compiles becomes the declarations of what was requested followed by its own
items, with each outermost piece of markup replaced and everything else in its place. -/
theorem compile_frame (options : Options) (annotate : Bool) (program : Program) (count : Nat)
    (h : (program.compile options annotate).result = .ok count) :
    ∃ exprs items, program.Frame options annotate exprs items := by
  have hf := fault_eq_none_of_result h
  obtain ⟨exprs, hfill⟩ :=
    Node.allFilledBy_visitAll (Pass.fills_compilesTo _) program.body trivial hf
  have hitems := hfill.fill []
  rw [List.append_nil] at hitems
  refine ⟨exprs, (program.visited options annotate).1, ?_, ?_, hfill.compiled, hitems, ?_, ?_⟩
  · rw [compile_of_fault_eq_none hf]
    rfl
  · have hlen := Node.length_fillAll program.body exprs
    rw [hitems] at hlen
    exact hlen
  · exact Node.kept_visitAll (Pass.kept_importsRequested _) program.body _
  · intro requests hr
    rw [hr, Imports.declarations_eq_nil_iff, Imports.entries_serveAll_new_eq_nil_iff]

/-- The sample compiles, and so it has a frame. -/
theorem sample_compile_frame :
    (sample.compile .default true).result = .ok 2 ∧
      ∃ exprs items, sample.Frame .default true exprs items :=
  ⟨rfl, compile_frame .default true sample 2 rfl⟩

end Program

end JsxVNode
