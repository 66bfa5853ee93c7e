import JsxVNode.Pass
import JsxVNode.Proofs.Compile.Requests
import JsxVNode.Proofs.Tree.Markup
import Mathlib.Tactic.ByContra

/-!
# Runs of the pass

Visiting is a computation on the state of the pass. This file says what a single
replacement does to that state, shows that a pass with a fault goes through a tree
without touching it, and draws the consequence every later induction needs: if no
fault is there after a visit, none was there before it.
-/

namespace JsxVNode

namespace Pass

variable {α β : Type}

/-- What a computation on the state of the pass gives: its value and the next state. -/
def exec (pass : Pass) (x : StateM Pass α) : α × Pass := x.run pass

@[simp] theorem exec_pure (pass : Pass) (a : α) : pass.exec (pure a) = (a, pass) := rfl

@[simp] theorem exec_bind (pass : Pass) (x : StateM Pass α) (f : α → StateM Pass β) :
    pass.exec (x >>= f) = (pass.exec x).2.exec (f (pass.exec x).1) := rfl

/-- If a computation leaves a pass with a fault alone and there is no fault after it, there was
none before it. -/
theorem fault_eq_none_of_exec {pass : Pass} {x : StateM Pass α} {a : α}
    (hx : ∀ {pass : Pass}, pass.fault.isSome = true → pass.exec x = (a, pass))
    (h : (pass.exec x).2.fault = none) : pass.fault = none := by
  by_contra hne
  have hs : pass.fault.isSome = true := Option.isSome_iff_ne_none.mpr hne
  rw [hx hs] at h
  exact hne h

end Pass

/-- What a replacement can give: nothing happens after a fault, markup that compiles is replaced by
what it compiles to, and markup that does not compile stays and leaves its fault. -/
inductive Jsx.Replaced (ctx : Context) (markup : Jsx) (pass : Pass) : Node × Pass → Prop where
  | ended (h : pass.fault.isSome = true) : Replaced ctx markup pass (.jsx markup, pass)
  | compiled (h : pass.fault = none) {node : Node} {session : Session}
      (hr : (markup.compile ctx).Returns pass.session node session) :
      Replaced ctx markup pass
        (node, { pass with session := session, compiled := pass.compiled + 1 })
  | failed (h : pass.fault = none) {fault : Fault} {session : Session}
      (hf : (markup.compile ctx).outcome pass.session = (.error fault, session)) :
      Replaced ctx markup pass
        (.jsx markup, { pass with session := session, fault := some fault })

/-- A replacement compiles the markup, unless the pass has ended with a fault before. -/
theorem Jsx.exec_replace (ctx : Context) (markup : Jsx) (pass : Pass) :
    pass.exec (markup.replace ctx) =
      if pass.fault.isSome then (.jsx markup, pass) else
      match (markup.compile ctx).outcome pass.session with
      | (.ok node, session) =>
        (node, { pass with session := session, compiled := pass.compiled + 1 })
      | (.error fault, session) =>
        (.jsx markup, { pass with session := session, fault := some fault }) := by
  by_cases h : pass.fault.isSome = true
  · rw [if_pos h]
    change Pass.exec pass (if pass.fault.isSome = true then _ else _) = _
    rw [if_pos h]
    rfl
  · rw [if_neg h]
    change Pass.exec pass (if pass.fault.isSome = true then _ else _) = _
    rw [if_neg h]
    change Pass.exec pass (match (markup.compile ctx).outcome pass.session with
      | (.ok node, session) => _
      | (.error fault, session) => _) = _
    rcases (markup.compile ctx).outcome pass.session with ⟨_ | _, _⟩ <;> rfl

/-- Every replacement is of one of the three kinds. -/
theorem Jsx.replaced (ctx : Context) (markup : Jsx) (pass : Pass) :
    Jsx.Replaced ctx markup pass (pass.exec (markup.replace ctx)) := by
  rw [Jsx.exec_replace]
  by_cases h : pass.fault.isSome = true
  · rw [if_pos h]
    exact .ended h
  · rw [if_neg h]
    have hn : pass.fault = none := Option.not_isSome_iff_eq_none.mp h
    rcases hc : (markup.compile ctx).outcome pass.session with ⟨fault | node, session⟩
    · exact .failed hn hc
    · exact .compiled hn hc

/-- A pass with a fault replaces nothing. -/
theorem Jsx.exec_replace_of_fault (ctx : Context) (markup : Jsx) {pass : Pass}
    (h : pass.fault.isSome = true) : pass.exec (markup.replace ctx) = (.jsx markup, pass) := by
  rw [Jsx.exec_replace, if_pos h]

/-- If there is no fault after a replacement, the markup was replaced by what it compiles to. -/
theorem Jsx.returns_of_replace {ctx : Context} {markup : Jsx} {pass : Pass}
    (h : (pass.exec (markup.replace ctx)).2.fault = none) :
    (markup.compile ctx).Returns pass.session (pass.exec (markup.replace ctx)).1
      (pass.exec (markup.replace ctx)).2.session := by
  have hr := Jsx.replaced ctx markup pass
  generalize pass.exec (markup.replace ctx) = result at h hr ⊢
  cases hr with
  | ended hs =>
    rw [h] at hs
    cases hs
  | compiled _ hr => exact hr
  | failed _ _ => cases h

mutual

/-- A pass with a fault leaves a node as it is. -/
theorem Node.exec_visit_of_fault (ctx : Context) (node : Node) {pass : Pass}
    (h : pass.fault.isSome = true) : pass.exec (node.visit ctx) = (node, pass) := by
  cases node with
  | hole => rfl
  | ident name => rfl
  | lit value => rfl
  | paren span body =>
    simp only [Node.visit, Pass.exec_bind, Node.exec_visit_of_fault ctx body h, Pass.exec_pure]
  | array span elements =>
    simp only [Node.visit, Pass.exec_bind, Node.exec_visitAll_of_fault ctx elements h,
      Pass.exec_pure]
  | object span properties =>
    simp only [Node.visit, Pass.exec_bind, Node.exec_visitAll_of_fault ctx properties h,
      Pass.exec_pure]
  | spread dots operand =>
    simp only [Node.visit, Pass.exec_bind, Node.exec_visit_of_fault ctx operand h, Pass.exec_pure]
  | pair key value =>
    simp only [Node.visit, Pass.exec_bind, Node.exec_visit_of_fault ctx key h,
      Node.exec_visit_of_fault ctx value h, Pass.exec_pure]
  | call span scope callee args =>
    simp only [Node.visit, Pass.exec_bind, Node.exec_visit_of_fault ctx callee h,
      Node.exec_visitAll_of_fault ctx args h, Pass.exec_pure]
  | jsx markup =>
    simp only [Node.visit, Pass.exec_bind, Jsx.exec_visit_of_fault ctx markup h,
      Jsx.exec_replace_of_fault ctx markup h]
  | group items =>
    simp only [Node.visit, Pass.exec_bind, Node.exec_visitAll_of_fault ctx items h,
      Pass.exec_pure]
  | form label parts =>
    simp only [Node.visit, Pass.exec_bind, Node.exec_visitAll_of_fault ctx parts h,
      Pass.exec_pure]

/-- A pass with a fault leaves several nodes as they are. -/
theorem Node.exec_visitAll_of_fault (ctx : Context) (nodes : List Node) {pass : Pass}
    (h : pass.fault.isSome = true) : pass.exec (Node.visitAll ctx nodes) = (nodes, pass) := by
  cases nodes with
  | nil => rfl
  | cons node nodes =>
    simp only [Node.visitAll, Pass.exec_bind, Node.exec_visit_of_fault ctx node h,
      Node.exec_visitAll_of_fault ctx nodes h, Pass.exec_pure]

/-- A pass with a fault leaves the expressions inside markup as they are. -/
theorem Jsx.exec_visit_of_fault (ctx : Context) (markup : Jsx) {pass : Pass}
    (h : pass.fault.isSome = true) : pass.exec (markup.visit ctx) = (markup, pass) := by
  cases markup with
  | element span opening attrs children closing =>
    simp only [Jsx.visit, Pass.exec_bind, Attr.exec_visitAll_of_fault ctx attrs h,
      Child.exec_visitAll_of_fault ctx children h, Pass.exec_pure]
  | fragment span opening closing children =>
    simp only [Jsx.visit, Pass.exec_bind, Child.exec_visitAll_of_fault ctx children h,
      Pass.exec_pure]

/-- A pass with a fault leaves attributes as they are. -/
theorem Attr.exec_visitAll_of_fault (ctx : Context) (attrs : List Attr) {pass : Pass}
    (h : pass.fault.isSome = true) : pass.exec (Attr.visitAll ctx attrs) = (attrs, pass) := by
  cases attrs with
  | nil => rfl
  | cons attr attrs =>
    simp only [Attr.visitAll, Pass.exec_bind, Attr.exec_visit_of_fault ctx attr h,
      Attr.exec_visitAll_of_fault ctx attrs h, Pass.exec_pure]

/-- A pass with a fault leaves an attribute as it is. -/
theorem Attr.exec_visit_of_fault (ctx : Context) (attr : Attr) {pass : Pass}
    (h : pass.fault.isSome = true) : pass.exec (attr.visit ctx) = (attr, pass) := by
  cases attr with
  | named span name value =>
    simp only [Attr.visit, Pass.exec_bind, AttrValue.exec_visit_of_fault ctx value h,
      Pass.exec_pure]
  | spread dots operand =>
    simp only [Attr.visit, Pass.exec_bind, Node.exec_visit_of_fault ctx operand h, Pass.exec_pure]

/-- A pass with a fault leaves the value of an attribute as it is. -/
theorem AttrValue.exec_visit_of_fault (ctx : Context) (value : AttrValue) {pass : Pass}
    (h : pass.fault.isSome = true) : pass.exec (value.visit ctx) = (value, pass) := by
  cases value with
  | bare => rfl
  | lit value => rfl
  | container span body =>
    simp only [AttrValue.visit, Pass.exec_bind, Node.exec_visit_of_fault ctx body h,
      Pass.exec_pure]
  | empty span inner => rfl
  | jsx markup =>
    simp only [AttrValue.visit, Pass.exec_bind, Jsx.exec_visit_of_fault ctx markup h,
      Pass.exec_pure]

/-- A pass with a fault leaves children as they are. -/
theorem Child.exec_visitAll_of_fault (ctx : Context) (children : List Child) {pass : Pass}
    (h : pass.fault.isSome = true) :
    pass.exec (Child.visitAll ctx children) = (children, pass) := by
  cases children with
  | nil => rfl
  | cons child children =>
    simp only [Child.visitAll, Pass.exec_bind, Child.exec_visit_of_fault ctx child h,
      Child.exec_visitAll_of_fault ctx children h, Pass.exec_pure]

/-- A pass with a fault leaves a child as it is. -/
theorem Child.exec_visit_of_fault (ctx : Context) (child : Child) {pass : Pass}
    (h : pass.fault.isSome = true) : pass.exec (child.visit ctx) = (child, pass) := by
  cases child with
  | text span value raw => rfl
  | container span body =>
    simp only [Child.visit, Pass.exec_bind, Node.exec_visit_of_fault ctx body h, Pass.exec_pure]
  | empty span inner => rfl
  | spread span operand =>
    simp only [Child.visit, Pass.exec_bind, Node.exec_visit_of_fault ctx operand h,
      Pass.exec_pure]
  | jsx markup =>
    simp only [Child.visit, Pass.exec_bind, Jsx.exec_visit_of_fault ctx markup h, Pass.exec_pure]

end

/-- A visit of several nodes gives as many. -/
theorem Node.length_visitAll (ctx : Context) (nodes : List Node) (pass : Pass) :
    (pass.exec (Node.visitAll ctx nodes)).1.length = nodes.length := by
  induction nodes generalizing pass with
  | nil => rfl
  | cons node nodes ih => exact congrArg (· + 1) (ih _)

/-- A relation between states of the pass that holds across nothing happening, across one thing
after another, and across the replacement of markup whose parts satisfy a condition. A visit leaves
the condition as it is. -/
structure Pass.KeptOn (ctx : Context) (Q : Jsx → Prop) (R : Pass → Pass → Prop) : Prop where
  refl : ∀ pass, R pass pass
  trans : ∀ {first second third}, R first second → R second third → R first third
  visit : ∀ {markup : Jsx}, Q markup → ∀ pass : Pass, Q (pass.exec (markup.visit ctx)).1
  replace : ∀ {markup : Jsx}, (∀ part ∈ markup.parts, Q part) →
    ∀ pass : Pass, R pass (pass.exec (markup.replace ctx)).2

section

variable {ctx : Context} {Q : Jsx → Prop} {R : Pass → Pass → Prop}

-- Inside markup the condition is carried along with the relation: the parts of a piece of markup
-- have been visited when the piece is replaced.
mutual

/-- What holds across every replacement in a node holds across a visit of the node. -/
theorem Node.keptOn_visit (h : Pass.KeptOn ctx Q R) (node : Node)
    (hq : ∀ markup ∈ node.markups, Q markup) (pass : Pass) :
    R pass (pass.exec (node.visit ctx)).2 := by
  cases node with
  | hole => exact h.refl pass
  | ident name => exact h.refl pass
  | lit value => exact h.refl pass
  | paren span body => exact Node.keptOn_visit h body hq pass
  | array span elements => exact Node.keptOn_visitAll h elements hq pass
  | object span properties => exact Node.keptOn_visitAll h properties hq pass
  | spread dots operand => exact Node.keptOn_visit h operand hq pass
  | pair key value =>
    obtain ⟨hkey, hvalue⟩ := List.forall_mem_append.mp hq
    exact h.trans (Node.keptOn_visit h key hkey pass) (Node.keptOn_visit h value hvalue _)
  | call span scope callee args =>
    obtain ⟨hcallee, hargs⟩ := List.forall_mem_append.mp hq
    exact h.trans (Node.keptOn_visit h callee hcallee pass) (Node.keptOn_visitAll h args hargs _)
  | jsx markup =>
    obtain ⟨hvisit, hparts⟩ := Jsx.keptOn_visit h markup hq pass
    exact h.trans hvisit (h.replace hparts _)
  | group items => exact Node.keptOn_visitAll h items hq pass
  | form label parts => exact Node.keptOn_visitAll h parts hq pass

/-- The visit of nodes keeps a relation that replacements keep. -/
theorem Node.keptOn_visitAll (h : Pass.KeptOn ctx Q R) (nodes : List Node)
    (hq : ∀ markup ∈ Node.markupsAll nodes, Q markup) (pass : Pass) :
    R pass (pass.exec (Node.visitAll ctx nodes)).2 := by
  cases nodes with
  | nil => exact h.refl pass
  | cons node nodes =>
    obtain ⟨hnode, hnodes⟩ := List.forall_mem_append.mp hq
    exact h.trans (Node.keptOn_visit h node hnode pass) (Node.keptOn_visitAll h nodes hnodes _)

/-- The visit of the parts of markup keeps the relation, and its parts still satisfy the
condition. -/
theorem Jsx.keptOn_visit (h : Pass.KeptOn ctx Q R) (markup : Jsx)
    (hq : ∀ inner ∈ markup.markups, Q inner) (pass : Pass) :
    R pass (pass.exec (markup.visit ctx)).2 ∧
      ∀ part ∈ (pass.exec (markup.visit ctx)).1.parts, Q part := by
  have hself := h.visit (hq markup markup.mem_markups_self) pass
  cases markup with
  | element span opening attrs children closing =>
    rw [Jsx.markups, List.forall_mem_cons, List.forall_mem_append] at hq
    obtain ⟨hattrs, hattrParts⟩ := Attr.keptOn_visitAll h attrs hq.2.1 pass
    obtain ⟨hchildren, hchildParts⟩ := Child.keptOn_visitAll h children hq.2.2
      (pass.exec (Attr.visitAll ctx attrs)).2
    refine ⟨h.trans hattrs hchildren, List.forall_mem_cons.mpr ⟨hself, ?_⟩⟩
    exact List.forall_mem_append.mpr ⟨hattrParts, hchildParts⟩
  | fragment span opening closing children =>
    rw [Jsx.markups, List.forall_mem_cons] at hq
    obtain ⟨hchildren, hchildParts⟩ := Child.keptOn_visitAll h children hq.2 pass
    exact ⟨hchildren, List.forall_mem_cons.mpr ⟨hself, hchildParts⟩⟩

/-- The visit of attributes keeps the relation, and the markup left in them satisfies the
condition. -/
theorem Attr.keptOn_visitAll (h : Pass.KeptOn ctx Q R) (attrs : List Attr)
    (hq : ∀ markup ∈ Attr.markupsAll attrs, Q markup) (pass : Pass) :
    R pass (pass.exec (Attr.visitAll ctx attrs)).2 ∧
      ∀ part ∈ Attr.partsAll (pass.exec (Attr.visitAll ctx attrs)).1, Q part := by
  cases attrs with
  | nil => exact ⟨h.refl pass, List.forall_mem_nil _⟩
  | cons attr attrs =>
    obtain ⟨hattr, hattrs⟩ := List.forall_mem_append.mp hq
    obtain ⟨hfirst, hfirstParts⟩ := Attr.keptOn_visit h attr hattr pass
    obtain ⟨hrest, hrestParts⟩ := Attr.keptOn_visitAll h attrs hattrs
      (pass.exec (attr.visit ctx)).2
    exact ⟨h.trans hfirst hrest, List.forall_mem_append.mpr ⟨hfirstParts, hrestParts⟩⟩

theorem Attr.keptOn_visit (h : Pass.KeptOn ctx Q R) (attr : Attr)
    (hq : ∀ markup ∈ attr.markups, Q markup) (pass : Pass) :
    R pass (pass.exec (attr.visit ctx)).2 ∧
      ∀ part ∈ (pass.exec (attr.visit ctx)).1.parts, Q part := by
  cases attr with
  | named span name value => exact AttrValue.keptOn_visit h value hq pass
  | spread dots operand => exact ⟨Node.keptOn_visit h operand hq pass, List.forall_mem_nil _⟩

theorem AttrValue.keptOn_visit (h : Pass.KeptOn ctx Q R) (value : AttrValue)
    (hq : ∀ markup ∈ value.markups, Q markup) (pass : Pass) :
    R pass (pass.exec (value.visit ctx)).2 ∧
      ∀ part ∈ (pass.exec (value.visit ctx)).1.parts, Q part := by
  cases value with
  | container span body => exact ⟨Node.keptOn_visit h body hq pass, List.forall_mem_nil _⟩
  | jsx markup => exact Jsx.keptOn_visit h markup hq pass
  | _ => exact ⟨h.refl pass, List.forall_mem_nil _⟩

theorem Child.keptOn_visitAll (h : Pass.KeptOn ctx Q R) (children : List Child)
    (hq : ∀ markup ∈ Child.markupsAll children, Q markup) (pass : Pass) :
    R pass (pass.exec (Child.visitAll ctx children)).2 ∧
      ∀ part ∈ Child.partsAll (pass.exec (Child.visitAll ctx children)).1, Q part := by
  cases children with
  | nil => exact ⟨h.refl pass, List.forall_mem_nil _⟩
  | cons child children =>
    obtain ⟨hchild, hchildren⟩ := List.forall_mem_append.mp hq
    obtain ⟨hfirst, hfirstParts⟩ := Child.keptOn_visit h child hchild pass
    obtain ⟨hrest, hrestParts⟩ := Child.keptOn_visitAll h children hchildren
      (pass.exec (child.visit ctx)).2
    exact ⟨h.trans hfirst hrest, List.forall_mem_append.mpr ⟨hfirstParts, hrestParts⟩⟩

theorem Child.keptOn_visit (h : Pass.KeptOn ctx Q R) (child : Child)
    (hq : ∀ markup ∈ child.markups, Q markup) (pass : Pass) :
    R pass (pass.exec (child.visit ctx)).2 ∧
      ∀ part ∈ (pass.exec (child.visit ctx)).1.parts, Q part := by
  cases child with
  | container span body => exact ⟨Node.keptOn_visit h body hq pass, List.forall_mem_nil _⟩
  | spread span operand => exact ⟨Node.keptOn_visit h operand hq pass, List.forall_mem_nil _⟩
  | jsx markup => exact Jsx.keptOn_visit h markup hq pass
  | _ => exact ⟨h.refl pass, List.forall_mem_nil _⟩

end

/-- A relation between states of the pass that holds across every replacement, and across nothing
happening and one thing after another. -/
structure Pass.Kept (ctx : Context) (R : Pass → Pass → Prop) : Prop where
  refl : ∀ pass, R pass pass
  trans : ∀ {first second third}, R first second → R second third → R first third
  replace : ∀ (markup : Jsx) (pass : Pass), R pass (pass.exec (markup.replace ctx)).2

/-- A relation that all replacements keep is kept whatever the markup is. -/
theorem Pass.Kept.on (h : Pass.Kept ctx R) : Pass.KeptOn ctx (fun _ => True) R where
  refl := h.refl
  trans := h.trans
  visit _ _ := trivial
  replace _ := h.replace _

/-- What holds across every replacement holds across a visit. -/
theorem Node.kept_visit (h : Pass.Kept ctx R) (node : Node) (pass : Pass) :
    R pass (pass.exec (node.visit ctx)).2 :=
  Node.keptOn_visit h.on node (fun _ _ => trivial) pass

/-- The visit of nodes keeps a relation that all replacements keep. -/
theorem Node.kept_visitAll (h : Pass.Kept ctx R) (nodes : List Node) (pass : Pass) :
    R pass (pass.exec (Node.visitAll ctx nodes)).2 :=
  Node.keptOn_visitAll h.on nodes (fun _ _ => trivial) pass

theorem Attr.kept_visitAll (h : Pass.Kept ctx R) (attrs : List Attr) (pass : Pass) :
    R pass (pass.exec (Attr.visitAll ctx attrs)).2 :=
  (Attr.keptOn_visitAll h.on attrs (fun _ _ => trivial) pass).1

theorem Child.kept_visitAll (h : Pass.Kept ctx R) (children : List Child) (pass : Pass) :
    R pass (pass.exec (Child.visitAll ctx children)).2 :=
  (Child.keptOn_visitAll h.on children (fun _ _ => trivial) pass).1

end

/-!
# The imports after a pass

A pass asks for imports only through the markup that it replaces, so its imports arise
from those it began with by requests, and each of these is one that markup can make.
-/

/-- The imports of one state of the pass arise from those of another by allowed requests. -/
def Pass.RequestedWithin (allowed : Option String → Imports.Request → Prop)
    (pass pass' : Pass) : Prop :=
  ∃ requests, pass'.session.imports = pass.session.imports.serveAll requests ∧
    ∀ request ∈ requests, allowed pass.session.imports.pragma request

namespace Pass

variable {allowed : Option String → Imports.Request → Prop}

theorem RequestedWithin.refl (pass : Pass) : pass.RequestedWithin allowed pass :=
  ⟨[], rfl, List.forall_mem_nil _⟩

theorem RequestedWithin.trans {first second third : Pass}
    (h : first.RequestedWithin allowed second) (h' : second.RequestedWithin allowed third) :
    first.RequestedWithin allowed third := by
  obtain ⟨requests, hr, ha⟩ := h
  obtain ⟨requests', hr', ha'⟩ := h'
  refine ⟨requests ++ requests', by rw [hr', hr, Imports.serveAll_append], ?_⟩
  have hpragma : second.session.imports.pragma = first.session.imports.pragma := by
    rw [hr, Imports.pragma_serveAll]
  rw [hpragma] at ha'
  exact List.forall_mem_append.mpr ⟨ha, ha'⟩

/-- A replacement makes the requests of the compilation. -/
theorem requestedWithin_replace {ctx : Context} {markup : Jsx}
    (h : Compile.RequestsWithin allowed (markup.compile ctx)) (pass : Pass) :
    pass.RequestedWithin allowed (pass.exec (markup.replace ctx)).2 := by
  obtain ⟨requests, hrequests, ha⟩ := h pass.session
  have hr := Jsx.replaced ctx markup pass
  generalize pass.exec (markup.replace ctx) = result at hr ⊢
  cases hr with
  | ended _ => exact .refl pass
  | compiled _ hr =>
    rw [hr.outcome_eq] at hrequests
    exact ⟨requests, hrequests, ha⟩
  | failed _ hf =>
    rw [hf] at hrequests
    exact ⟨requests, hrequests, ha⟩

/-- A pass makes requests, and none for the factory of the runtime if the options name one. -/
theorem kept_makesRequests (ctx : Context) :
    Pass.Kept ctx (Pass.RequestedWithin Compile.sparesFactory) where
  refl := .refl
  trans := .trans
  replace markup :=
    requestedWithin_replace (Jsx.steps_compile Compile.steps_makesRequests ctx markup)

/-- The imports of one state of the pass arise from those of another by requests. -/
def ImportsRequested (pass pass' : Pass) : Prop :=
  ∃ requests, pass'.session.imports = pass.session.imports.serveAll requests

/-- A pass changes its imports by requests alone. -/
theorem kept_importsRequested (ctx : Context) : Pass.Kept ctx Pass.ImportsRequested where
  refl _ := ⟨[], rfl⟩
  trans := by
    rintro first second third ⟨requests, h⟩ ⟨requests', h'⟩
    exact ⟨requests ++ requests', by rw [h', h, Imports.serveAll_append]⟩
  replace markup pass := by
    obtain ⟨requests, h, _⟩ := (kept_makesRequests ctx).replace markup pass
    exact ⟨requests, h⟩

end Pass

namespace Program

/-- What the compilation of a program reads. -/
def context (options : Options) (annotate : Bool) (program : Program) : Context :=
  ⟨options, .ofProgram program, annotate⟩

/-- The body of a program after the pass, and the state the pass ends in. -/
def visited (options : Options) (annotate : Bool) (program : Program) : List Node × Pass :=
  let ctx := program.context options annotate
  Pass.exec ⟨.new ctx, 0, none⟩ (Node.visitAll ctx program.body)

/-- What a compilation gives depends on whether the pass ends with a fault. -/
private theorem compile_eq (options : Options) (annotate : Bool) (program : Program) :
    program.compile options annotate =
      (program.visited options annotate).2.fault.elim
        ⟨(program.visited options annotate).2.session.imports.inject
            { program with body := (program.visited options annotate).1 },
          .ok (program.visited options annotate).2.compiled,
          (program.visited options annotate).2.session.comments⟩
        fun fault => ⟨{ program with body := (program.visited options annotate).1 },
          .error fault, (program.visited options annotate).2.session.comments⟩ := by
  cases h : program.visited options annotate with
  | mk body pass =>
    unfold visited context Pass.exec at h
    dsimp only at h
    simp only [compile, h]
    cases pass.fault <;> rfl

/-- A pass that ends without a fault is followed by the injection of the requested declarations. -/
theorem compile_of_fault_eq_none {options : Options} {annotate : Bool} {program : Program}
    (h : (program.visited options annotate).2.fault = none) :
    program.compile options annotate =
      ⟨(program.visited options annotate).2.session.imports.inject
          { program with body := (program.visited options annotate).1 },
        .ok (program.visited options annotate).2.compiled,
        (program.visited options annotate).2.session.comments⟩ := by
  rw [compile_eq, h, Option.elim_none]

/-- A pass that ends with a fault returns it. -/
theorem compile_result_of_fault_eq_some {options : Options} {annotate : Bool} {program : Program}
    {fault : Fault} (h : (program.visited options annotate).2.fault = some fault) :
    (program.compile options annotate).result = .error fault := by
  rw [compile_eq, h, Option.elim_some]

/-- It leaves the items as far as they were visited, and nothing is injected. -/
theorem compile_program_of_fault_eq_some {options : Options} {annotate : Bool} {program : Program}
    {fault : Fault} (h : (program.visited options annotate).2.fault = some fault) :
    (program.compile options annotate).program =
      { program with body := (program.visited options annotate).1 } := by
  rw [compile_eq, h, Option.elim_some]

/-- A compilation succeeds exactly if the pass ends without a fault. -/
theorem fault_eq_none_of_result {options : Options} {annotate : Bool} {program : Program}
    {count : Nat} (h : (program.compile options annotate).result = .ok count) :
    (program.visited options annotate).2.fault = none := by
  cases hf : (program.visited options annotate).2.fault with
  | none => rfl
  | some fault =>
    rw [compile_result_of_fault_eq_some hf] at h
    cases h

/-- A compilation that ends in a fault returns the fault that the pass ends with. -/
theorem fault_eq_some_of_result {options : Options} {annotate : Bool} {program : Program}
    {fault : Fault} (h : (program.compile options annotate).result = .error fault) :
    (program.visited options annotate).2.fault = some fault := by
  cases hf : (program.visited options annotate).2.fault with
  | none =>
    rw [compile_of_fault_eq_none hf] at h
    cases h
  | some found =>
    rw [compile_result_of_fault_eq_some hf] at h
    rw [Except.error.inj h]

/-- The module `<div id={x}>{<p/>}<></></div>`: markup in an expression and directly in markup. -/
def sample : Program where
  kind := .module
  span := .dummy
  interpreter := none
  body := [.plain .expressionStatement [.jsx (.element .dummy (tag "div")
    [.named .dummy (.plain (.generated "id")) (.container .dummy (.ref "x"))]
    [.container .dummy (.jsx (.element .dummy (tag "p") [] [] none)),
      .jsx (.fragment .dummy .dummy .dummy [])] none)]]
where
  /-- A self-closing tag of a given name. -/
  tag (name : String) : Opening := ⟨.dummy, true, .path (.ident (.generated name))⟩

end Program

end JsxVNode
