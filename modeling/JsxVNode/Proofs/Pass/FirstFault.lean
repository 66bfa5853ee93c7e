import JsxVNode.Proofs.Compile.FirstFault
import JsxVNode.Proofs.Pass.MarkupFree
import JsxVNode.Proofs.Pass.Faults
import JsxVNode.Proofs.Tree.Roots

/-!
# The first fault ends the pass

The root markup of a program is replaced one piece after the other, and the pass ends
with the first fault of the first piece that has one. A visit changes no fault of the
markup it goes through, so the fault is read off the program as it was written. The
items before the one with the fault have been compiled by then, those after it stay as
they are, and what they contain or declare has no influence on the fault.
-/

namespace JsxVNode

mutual

/-- A visit keeps the faults of a piece of markup. -/
theorem Jsx.faults_visit (options : Options) (ctx : Context) (markup : Jsx) (pass : Pass) :
    (pass.exec (markup.visit ctx)).1.faults options = markup.faults options := by
  cases markup with
  | element span opening attrs children closing =>
    simp only [Jsx.visit, Pass.exec_bind, Pass.exec_pure, Jsx.faults]
    rw [Attr.faultsAll_visitAll options ctx _ attrs, Child.faultsAll_visitAll options ctx children]
  | fragment span opening closing children =>
    simp only [Jsx.visit, Pass.exec_bind, Pass.exec_pure, Jsx.faults]
    rw [Child.faultsAll_visitAll options ctx children]

theorem Attr.faultsAll_visitAll (options : Options) (ctx : Context) (isComponent : Bool)
    (attrs : List Attr) (pass : Pass) :
    Attr.faultsAll options isComponent (pass.exec (Attr.visitAll ctx attrs)).1 =
      Attr.faultsAll options isComponent attrs := by
  cases attrs with
  | nil => rfl
  | cons attr attrs =>
    simp only [Attr.visitAll, Pass.exec_bind, Pass.exec_pure, Attr.faultsAll]
    rw [Attr.faults_visit options ctx isComponent attr,
      Attr.faultsAll_visitAll options ctx isComponent attrs]

/-- A visit keeps the faults of an attribute: what its value holds stays as assignable as it was. -/
theorem Attr.faults_visit (options : Options) (ctx : Context) (isComponent : Bool) (attr : Attr)
    (pass : Pass) :
    (pass.exec (attr.visit ctx)).1.faults options isComponent =
      attr.faults options isComponent := by
  cases attr with
  | spread dots operand => rfl
  | named span name value =>
    cases value with
    | container braces body =>
      have halike : Option.Rel Node.Alike (some body) (some (pass.exec (body.visit ctx)).1) :=
        .some (Node.alike_visit ctx body pass)
      simp only [Attr.visit, AttrValue.visit, Pass.exec_bind, Pass.exec_pure, Attr.faults,
        AttrValue.faults, AttrValue.expr?, AttrValue.isContainer,
        directiveFaults_eq_of_alike halike]
    | jsx markup =>
      have halike : Option.Rel Node.Alike (some (.jsx markup))
          (some (.jsx (pass.exec (markup.visit ctx)).1)) := .some (.other rfl rfl)
      simp only [Attr.visit, AttrValue.visit, Pass.exec_bind, Pass.exec_pure, Attr.faults,
        AttrValue.faults, AttrValue.expr?, AttrValue.isContainer,
        directiveFaults_eq_of_alike halike]
      rw [Jsx.faults_visit options ctx markup]
    | _ => rfl

theorem Child.faultsAll_visitAll (options : Options) (ctx : Context) (children : List Child)
    (pass : Pass) :
    Child.faultsAll options (pass.exec (Child.visitAll ctx children)).1 =
      Child.faultsAll options children := by
  cases children with
  | nil => rfl
  | cons child children =>
    simp only [Child.visitAll, Pass.exec_bind, Pass.exec_pure, Child.faultsAll]
    rw [Child.faults_visit options ctx child, Child.faultsAll_visitAll options ctx children]

theorem Child.faults_visit (options : Options) (ctx : Context) (child : Child) (pass : Pass) :
    (pass.exec (child.visit ctx)).1.faults options = child.faults options := by
  cases child with
  | jsx markup => exact Jsx.faults_visit options ctx markup pass
  | _ => rfl

end

/-- The first fault of several pieces of markup that are replaced one after the other. -/
def firstFault? (options : Options) (roots : List Jsx) : Option Fault :=
  (roots.flatMap (Jsx.faults options)).head?

/-- The first fault of a single piece of markup is the first of its own. -/
theorem firstFault?_singleton (options : Options) (markup : Jsx) :
    firstFault? options [markup] = (markup.faults options).head? := by
  rw [firstFault?, List.flatMap_singleton]

/-- The first fault of the roots in front comes before all others. -/
theorem firstFault?_append (options : Options) (roots roots' : List Jsx) :
    firstFault? options (roots ++ roots') =
      (firstFault? options roots).or (firstFault? options roots') := by
  rw [firstFault?, List.flatMap_append, List.head?_append]
  rfl

/-- Two visits in a row: the first fault of the second one counts only if there is no fault before
it. -/
theorem fault_or_firstFault? {options : Options} {before between after : Option Fault}
    {roots roots' : List Jsx} (h : between = before.or (firstFault? options roots))
    (h' : after = between.or (firstFault? options roots')) :
    after = before.or (firstFault? options (roots ++ roots')) := by
  rw [h', h, Option.or_assoc, firstFault?_append]

/-- A replacement adds the first fault of the markup, unless there is a fault already. -/
theorem Jsx.fault_replace (ctx : Context) (markup : Jsx) (pass : Pass) :
    (pass.exec (markup.replace ctx)).2.fault =
      pass.fault.or (firstFault? ctx.options [markup]) := by
  have hfinds := Jsx.finds_compile ctx markup pass.session
  rw [firstFault?_singleton]
  have hr := Jsx.replaced ctx markup pass
  generalize pass.exec (markup.replace ctx) = result at hr ⊢
  cases hr with
  | ended hs => rw [Option.or_of_isSome hs]
  | compiled hn hr =>
    rw [hr.outcome_eq] at hfinds
    dsimp only at hfinds ⊢
    rw [hfinds, hn]
    rfl
  | failed hn hf =>
    rw [hf] at hfinds
    dsimp only at hfinds ⊢
    rw [hfinds, hn]
    rfl

mutual

/-- After the visit of a node the fault is the one there was before, or the first one of the root
markup in the node. -/
theorem Node.fault_visit (ctx : Context) (node : Node) (pass : Pass) :
    (pass.exec (node.visit ctx)).2.fault =
      pass.fault.or (firstFault? ctx.options node.roots) := by
  cases node with
  | hole => exact (Option.or_none).symm
  | ident name => exact (Option.or_none).symm
  | lit value => exact (Option.or_none).symm
  | paren span body => exact Node.fault_visit ctx body pass
  | array span elements => exact Node.fault_visitAll ctx elements pass
  | object span properties => exact Node.fault_visitAll ctx properties pass
  | spread dots operand => exact Node.fault_visit ctx operand pass
  | pair key value =>
    exact fault_or_firstFault? (Node.fault_visit ctx key pass) (Node.fault_visit ctx value _)
  | call span scope callee args =>
    exact fault_or_firstFault? (Node.fault_visit ctx callee pass) (Node.fault_visitAll ctx args _)
  | jsx markup =>
    have hreplace := Jsx.fault_replace ctx (pass.exec (markup.visit ctx)).1
      (pass.exec (markup.visit ctx)).2
    rw [firstFault?_singleton, Jsx.faults_visit, ← firstFault?_singleton] at hreplace
    exact fault_or_firstFault? (Jsx.fault_visit ctx markup pass) hreplace
  | group items => exact Node.fault_visitAll ctx items pass
  | form label parts => exact Node.fault_visitAll ctx parts pass

/-- Nodes leave the fault that was there before, or else their first. -/
theorem Node.fault_visitAll (ctx : Context) (nodes : List Node) (pass : Pass) :
    (pass.exec (Node.visitAll ctx nodes)).2.fault =
      pass.fault.or (firstFault? ctx.options (Node.rootsAll nodes)) := by
  cases nodes with
  | nil => exact (Option.or_none).symm
  | cons node nodes =>
    exact fault_or_firstFault? (Node.fault_visit ctx node pass) (Node.fault_visitAll ctx nodes _)

/-- The parts of markup leave the fault that was there before, or else the first of the roots
inside. -/
theorem Jsx.fault_visit (ctx : Context) (markup : Jsx) (pass : Pass) :
    (pass.exec (markup.visit ctx)).2.fault =
      pass.fault.or (firstFault? ctx.options markup.innerRoots) := by
  cases markup with
  | element span opening attrs children closing =>
    exact fault_or_firstFault? (Attr.fault_visitAll ctx attrs pass)
      (Child.fault_visitAll ctx children _)
  | fragment span opening closing children => exact Child.fault_visitAll ctx children pass

theorem Attr.fault_visitAll (ctx : Context) (attrs : List Attr) (pass : Pass) :
    (pass.exec (Attr.visitAll ctx attrs)).2.fault =
      pass.fault.or (firstFault? ctx.options (Attr.rootsAll attrs)) := by
  cases attrs with
  | nil => exact (Option.or_none).symm
  | cons attr attrs =>
    exact fault_or_firstFault? (Attr.fault_visit ctx attr pass) (Attr.fault_visitAll ctx attrs _)

/-- An attribute leaves the fault that was there before, or else the first of the roots in its
value. -/
theorem Attr.fault_visit (ctx : Context) (attr : Attr) (pass : Pass) :
    (pass.exec (attr.visit ctx)).2.fault =
      pass.fault.or (firstFault? ctx.options attr.roots) := by
  cases attr with
  | named span name value => exact AttrValue.fault_visit ctx value pass
  | spread dots operand => exact Node.fault_visit ctx operand pass

/-- The value of an attribute leaves the fault that was there before, or else the first of its
roots. -/
theorem AttrValue.fault_visit (ctx : Context) (value : AttrValue) (pass : Pass) :
    (pass.exec (value.visit ctx)).2.fault =
      pass.fault.or (firstFault? ctx.options value.roots) := by
  cases value with
  | container span body => exact Node.fault_visit ctx body pass
  | jsx markup => exact Jsx.fault_visit ctx markup pass
  | _ => exact (Option.or_none).symm

theorem Child.fault_visitAll (ctx : Context) (children : List Child) (pass : Pass) :
    (pass.exec (Child.visitAll ctx children)).2.fault =
      pass.fault.or (firstFault? ctx.options (Child.rootsAll children)) := by
  cases children with
  | nil => exact (Option.or_none).symm
  | cons child children =>
    exact fault_or_firstFault? (Child.fault_visit ctx child pass)
      (Child.fault_visitAll ctx children _)

/-- A child leaves the fault that was there before, or else the first of its roots. -/
theorem Child.fault_visit (ctx : Context) (child : Child) (pass : Pass) :
    (pass.exec (child.visit ctx)).2.fault =
      pass.fault.or (firstFault? ctx.options child.roots) := by
  cases child with
  | container span body => exact Node.fault_visit ctx body pass
  | spread span operand => exact Node.fault_visit ctx operand pass
  | jsx markup => exact Jsx.fault_visit ctx markup pass
  | _ => exact (Option.or_none).symm

end

theorem Node.rootsAll_append (nodes nodes' : List Node) :
    Node.rootsAll (nodes ++ nodes') = Node.rootsAll nodes ++ Node.rootsAll nodes' := by
  simp only [Node.rootsAll_eq_flatMap, List.flatMap_append]

/-- The first fault of several nodes is the first fault of one of them, and there is none in the
nodes before it. -/
theorem Node.exists_item_of_firstFault? {options : Options} {nodes : List Node} {fault : Fault}
    (h : firstFault? options (Node.rootsAll nodes) = some fault) :
    ∃ before item after, nodes = before ++ item :: after ∧
      firstFault? options (Node.rootsAll before) = none ∧
      firstFault? options item.roots = some fault := by
  induction nodes with
  | nil => cases h
  | cons node nodes ih =>
    rw [Node.rootsAll, firstFault?_append] at h
    cases hnode : firstFault? options node.roots with
    | some found =>
      rw [hnode] at h
      exact ⟨[], node, nodes, rfl, rfl, hnode.trans h⟩
    | none =>
      rw [hnode, Option.none_or] at h
      obtain ⟨before, item, after, rfl, hbefore, hitem⟩ := ih h
      refine ⟨node :: before, item, after, rfl, ?_, hitem⟩
      rw [Node.rootsAll, firstFault?_append, hnode, hbefore]
      rfl

/-- The nodes behind others are visited in the state that those leave. -/
theorem Node.exec_visitAll_append (ctx : Context) (nodes nodes' : List Node) (pass : Pass) :
    pass.exec (Node.visitAll ctx (nodes ++ nodes')) =
      let first := pass.exec (Node.visitAll ctx nodes)
      let second := first.2.exec (Node.visitAll ctx nodes')
      (first.1 ++ second.1, second.2) := by
  induction nodes generalizing pass with
  | nil => rfl
  | cons node nodes ih =>
    rw [List.cons_append, Node.visitAll, Node.visitAll]
    simp only [Pass.exec_bind, Pass.exec_pure, ih, List.cons_append]

namespace Program

/-- The pass over a program ends with a fault at the item of index `k`. -/
structure StopsAt (options : Options) (annotate : Bool) (program : Program) (fault : Fault)
    (k : Nat) : Prop where
  /-- It is one of the items. -/
  inside : k < program.body.length
  /-- Nothing but items is changed, and there are as many as before. -/
  frame : (program.compile options annotate).program =
    { program with body := (program.compile options annotate).program.body }
  length : (program.compile options annotate).program.body.length = program.body.length
  /-- No markup is left in the items before it. -/
  before : ∀ item ∈ (program.compile options annotate).program.body.take k, item.MarkupFree
  /-- The items after it are as they were. -/
  after : (program.compile options annotate).program.body.drop (k + 1) =
    program.body.drop (k + 1)
  /-- The program that is cut off after the item ends with the same fault, and so it does with any
  other items in the place of what was cut off. -/
  cut : ∀ (annotate' : Bool) (later : List Node),
    ({ program with body := program.body.take (k + 1) ++ later }.compile options annotate').result =
      .error fault

/-- The fault that a compilation ends with is the first one of the root markup of the program. -/
theorem fault_visited (options : Options) (annotate : Bool) (program : Program) :
    (program.visited options annotate).2.fault =
      firstFault? options (Node.rootsAll program.body) := by
  rw [visited, Node.fault_visitAll]
  exact Option.none_or

/-- After an item with a fault the pass leaves everything as it is. -/
theorem visited_of_item {options : Options} {program : Program} (annotate : Bool)
    {before after : List Node} {item : Node} (hbody : program.body = before ++ item :: after)
    (hbefore : firstFault? options (Node.rootsAll before) = none)
    (hitem : (firstFault? options item.roots).isSome = true) :
    ∃ compiled node, (program.visited options annotate).1 = compiled ++ node :: after ∧
      compiled.length = before.length ∧ ∀ item ∈ compiled, item.MarkupFree := by
  let ctx := program.context options annotate
  let start : Pass := ⟨.new ctx, 0, none⟩
  have hnone : (start.exec (Node.visitAll ctx before)).2.fault = none := by
    rw [Node.fault_visitAll]
    exact hbefore
  have hsome : ((start.exec (Node.visitAll ctx before)).2.exec (item.visit ctx)).2.fault.isSome
      = true := by
    rw [Node.fault_visit, hnone]
    exact hitem
  refine ⟨_, ((start.exec (Node.visitAll ctx before)).2.exec (item.visit ctx)).1, ?_,
    Node.length_visitAll ctx before start, Node.markupFree_visitAll ctx before hnone⟩
  rw [visited, hbody, Node.exec_visitAll_append, Node.visitAll]
  simp only [Pass.exec_bind, Pass.exec_pure]
  rw [Node.exec_visitAll_of_fault ctx after hsome]

/-- The first fault stops the pass. A program that does not compile has an item with the fault that
is returned: the items before it are compiled, those after it are untouched, nothing is injected,
and nothing that comes after the item, be it markup or declarations, decides which fault it is. -/
theorem compile_stopsAt (options : Options) (annotate : Bool) (program : Program) (fault : Fault)
    (h : (program.compile options annotate).result = .error fault) :
    ∃ k, program.StopsAt options annotate fault k := by
  have hfault := fault_eq_some_of_result h
  have hprogram := compile_program_of_fault_eq_some hfault
  rw [fault_visited] at hfault
  obtain ⟨before, item, after, hbody, hbefore, hitem⟩ := Node.exists_item_of_firstFault? hfault
  obtain ⟨compiled, node, hvisited, hlength, hfree⟩ := visited_of_item annotate hbody hbefore
    (by rw [hitem, Option.isSome_some])
  rw [hvisited] at hprogram
  refine ⟨before.length, ?_, ?_, ?_, ?_, ?_, fun annotate' later => ?_⟩
  · rw [hbody, List.length_append, List.length_cons]
    omega
  · rw [hprogram]
  · rw [hprogram, hbody]
    simp only [List.length_append, List.length_cons, hlength]
  · rw [hprogram, ← hlength, List.take_left]
    exact hfree
  · have hdrop (items : List Node) (x : Node) :
        (items ++ x :: after).drop (items.length + 1) = after := by
      rw [List.append_cons]
      exact List.drop_left' (List.length_append)
    rw [hprogram, hbody, hdrop before item, ← hlength]
    exact hdrop compiled node
  · apply compile_result_of_fault_eq_some
    have htake : program.body.take (before.length + 1) = before ++ [item] := by
      rw [hbody, List.append_cons]
      exact List.take_left' List.length_append
    rw [fault_visited, htake, List.append_assoc, Node.rootsAll_append, firstFault?_append, hbefore,
      Option.none_or, List.singleton_append, Node.rootsAll, firstFault?_append, hitem]
    rfl

/-- The module `<p/>; <a:b/>; <c:d/>`. -/
def twoFaults : Program where
  kind := .module
  span := .dummy
  interpreter := none
  body := [.plain .expressionStatement [.jsx (.element .dummy (sample.tag "p") [] [] none)],
    .plain .expressionStatement [.jsx (.element .dummy (colonTag "a" "b") [] [] none)],
    .plain .expressionStatement [.jsx (.element .dummy (colonTag "c" "d") [] [] none)]]
where
  /-- A self-closing tag with a colon. -/
  colonTag (space name : String) : Opening :=
    ⟨.dummy, true, .qualified ⟨.dummy, .generated space, .generated name⟩⟩

/-- The pass ends with the first of the two tags. -/
theorem twoFaults_compile_stopsAt :
    (twoFaults.compile .default false).result =
        .error (.unsupportedTag "a:b" (.between Span.dummy.lo Span.dummy.hi)) ∧
      ∃ k, twoFaults.StopsAt .default false
        (.unsupportedTag "a:b" (.between Span.dummy.lo Span.dummy.hi)) k :=
  ⟨rfl, compile_stopsAt .default false twoFaults _ rfl⟩

end Program

end JsxVNode
