import JsxVNode.Proofs.Compile.Comments
import JsxVNode.Proofs.Pass.Tags

/-!
# Comments of a compiled program

Two passes over a program, with and without comments, go through the same states but for
the comments, so they end with the same program and the same count or fault. A pass
without faults adds the comments of every piece of markup in the program once, whether
the piece is replaced by itself or compiled together with the one that it stands in, and
whatever becomes of its call afterwards.
-/

namespace JsxVNode

open Compile

namespace Pass

variable {α β : Type}

/-- Two states of the pass are the same except for comments. -/
structure Agrees (pass pass' : Pass) : Prop where
  imports : pass.session.imports = pass'.session.imports
  compiled : pass.compiled = pass'.compiled
  fault : pass.fault = pass'.fault

/-- Two visits do the same except for comments. -/
def Matches (x y : StateM Pass α) : Prop :=
  ∀ pass pass' : Pass, pass.Agrees pass' →
    (pass.exec x).1 = (pass'.exec y).1 ∧ (pass.exec x).2.Agrees (pass'.exec y).2

theorem matches_pure (a : α) : Matches (pure a) (pure a) := fun _ _ h => ⟨rfl, h⟩

/-- Visits that match one by one match when they are joined. -/
theorem Matches.bind {x y : StateM Pass α} {f g : α → StateM Pass β} (hx : Matches x y)
    (hf : ∀ a, Matches (f a) (g a)) : Matches (x >>= f) (y >>= g) := by
  intro pass pass' h
  obtain ⟨hvalue, hstate⟩ := hx pass pass' h
  rw [exec_bind, exec_bind, ← hvalue]
  exact hf _ _ _ hstate

theorem Matches.map {x y : StateM Pass α} (hx : Matches x y) (f : α → β) :
    Matches (x >>= fun a => pure (f a)) (y >>= fun a => pure (f a)) :=
  hx.bind fun _ => matches_pure _

/-- Markup is replaced alike with and without comments. -/
theorem matches_replace (ctx : Context) (markup : Jsx) :
    Matches (markup.replace ctx) (markup.replace ctx.unannotated) := by
  intro pass pass' h
  have hcompiled := Jsx.matches_compile ctx markup _ _ h.imports
  rw [Jsx.exec_replace, Jsx.exec_replace, ← h.fault]
  by_cases hs : pass.fault.isSome = true
  · rw [if_pos hs, if_pos hs]
    exact ⟨rfl, h⟩
  · rw [if_neg hs, if_neg hs]
    generalize outcome (markup.compile ctx) pass.session = first,
      outcome (markup.compile ctx.unannotated) pass'.session = second at hcompiled ⊢
    obtain ⟨result, s⟩ := first
    obtain ⟨_, t⟩ := second
    obtain ⟨rfl, himports⟩ := hcompiled
    cases result with
    | ok node => exact ⟨rfl, himports, congrArg (· + 1) h.compiled, rfl⟩
    | error fault => exact ⟨rfl, himports, h.compiled, rfl⟩

end Pass

open Pass

mutual

/-- A node is visited alike with and without comments. -/
theorem Node.matches_visit (ctx : Context) (node : Node) :
    Pass.Matches (node.visit ctx) (node.visit ctx.unannotated) := by
  cases node with
  | hole => exact matches_pure _
  | ident name => exact matches_pure _
  | lit value => exact matches_pure _
  | paren span body => exact (Node.matches_visit ctx body).map _
  | array span elements => exact (Node.matches_visitAll ctx elements).map _
  | object span properties => exact (Node.matches_visitAll ctx properties).map _
  | spread dots operand => exact (Node.matches_visit ctx operand).map _
  | pair key value =>
    exact (Node.matches_visit ctx key).bind fun _ => (Node.matches_visit ctx value).map _
  | call span scope callee args =>
    exact (Node.matches_visit ctx callee).bind fun _ => (Node.matches_visitAll ctx args).map _
  | jsx markup => exact (Jsx.matches_visit ctx markup).bind fun _ => matches_replace ctx _
  | group items => exact (Node.matches_visitAll ctx items).map _
  | form label parts => exact (Node.matches_visitAll ctx parts).map _

/-- Nodes are visited alike with comments and without. -/
theorem Node.matches_visitAll (ctx : Context) (nodes : List Node) :
    Pass.Matches (Node.visitAll ctx nodes) (Node.visitAll ctx.unannotated nodes) := by
  cases nodes with
  | nil => exact matches_pure _
  | cons node nodes =>
    exact (Node.matches_visit ctx node).bind fun _ => (Node.matches_visitAll ctx nodes).map _

/-- The parts of markup are visited alike with comments and without. -/
theorem Jsx.matches_visit (ctx : Context) (markup : Jsx) :
    Pass.Matches (markup.visit ctx) (markup.visit ctx.unannotated) := by
  cases markup with
  | element span opening attrs children closing =>
    exact (Attr.matches_visitAll ctx attrs).bind fun _ =>
      (Child.matches_visitAll ctx children).map _
  | fragment span opening closing children => exact (Child.matches_visitAll ctx children).map _

theorem Attr.matches_visitAll (ctx : Context) (attrs : List Attr) :
    Pass.Matches (Attr.visitAll ctx attrs) (Attr.visitAll ctx.unannotated attrs) := by
  cases attrs with
  | nil => exact matches_pure _
  | cons attr attrs =>
    exact (Attr.matches_visit ctx attr).bind fun _ => (Attr.matches_visitAll ctx attrs).map _

theorem Attr.matches_visit (ctx : Context) (attr : Attr) :
    Pass.Matches (attr.visit ctx) (attr.visit ctx.unannotated) := by
  cases attr with
  | named span name value => exact (AttrValue.matches_visit ctx value).map _
  | spread dots operand => exact (Node.matches_visit ctx operand).map _

theorem AttrValue.matches_visit (ctx : Context) (value : AttrValue) :
    Pass.Matches (value.visit ctx) (value.visit ctx.unannotated) := by
  cases value with
  | container span body => exact (Node.matches_visit ctx body).map _
  | jsx markup => exact (Jsx.matches_visit ctx markup).map _
  | _ => exact matches_pure _

theorem Child.matches_visitAll (ctx : Context) (children : List Child) :
    Pass.Matches (Child.visitAll ctx children) (Child.visitAll ctx.unannotated children) := by
  cases children with
  | nil => exact matches_pure _
  | cons child children =>
    exact (Child.matches_visit ctx child).bind fun _ =>
      (Child.matches_visitAll ctx children).map _

theorem Child.matches_visit (ctx : Context) (child : Child) :
    Pass.Matches (child.visit ctx) (child.visit ctx.unannotated) := by
  cases child with
  | container span body => exact (Node.matches_visit ctx body).map _
  | spread span operand => exact (Node.matches_visit ctx operand).map _
  | jsx markup => exact (Jsx.matches_visit ctx markup).map _
  | _ => exact matches_pure _

end

/-!
# The comments of a pass

Markup may be compiled in the middle of other markup or on a visit of its own, so the
comments of a pass are compared with the pieces of markup up to their order.
-/

/-- The comments that annotate a piece of markup are those that annotate the call that the pass
makes of it. -/
def Jsx.Annotated (ctx : Context) (markup : Jsx) (log : List Comment) : Prop :=
  ∃ call, markup.Constructs ctx call ∧ call.Annotated markup.span log

namespace Pass

variable {ctx : Context} {α β : Type}

/-- Comments, in whatever order, are those that annotate some pieces of markup. -/
def Annotates (ctx : Context) (markups : List Jsx) (comments : Multiset Comment) : Prop :=
  ∃ logs : List (List Comment), List.Forall₂ (Jsx.Annotated ctx) markups logs ∧
    comments = ↑logs.flatten

theorem annotates_nil : Annotates ctx [] 0 := ⟨[], .nil, rfl⟩

/-- The comments of two lists of markup are those of both together. -/
theorem Annotates.append {markups markups' : List Jsx} {comments comments' : Multiset Comment}
    (h : Annotates ctx markups comments) (h' : Annotates ctx markups' comments') :
    Annotates ctx (markups ++ markups') (comments + comments') := by
  obtain ⟨logs, hl, rfl⟩ := h
  obtain ⟨logs', hl', rfl⟩ := h'
  refine ⟨logs ++ logs', List.rel_append hl hl', ?_⟩
  rw [List.flatten_append, ← Multiset.coe_add]

/-- The comments of one more piece of markup join those of the others. -/
theorem Annotates.cons {markup : Jsx} {log : List Comment} {markups : List Jsx}
    {comments : Multiset Comment} (h : markup.Annotated ctx log)
    (h' : Annotates ctx markups comments) :
    Annotates ctx (markup :: markups) (↑log + comments) := by
  obtain ⟨logs, hl, rfl⟩ := h'
  exact ⟨log :: logs, .cons h hl, rfl⟩

/-- A visit gives something and adds the comments that annotate some pieces of markup. -/
def Logs (ctx : Context) (x : StateM Pass α) (markups : List Jsx) : Prop :=
  ∃ a e, Gives ctx x a e ∧ Annotates ctx markups e.comments

theorem logs_pure (a : α) : Logs ctx (pure a) [] := ⟨a, 0, gives_pure a, annotates_nil⟩

/-- Two visits add the comments of the markup in either. -/
theorem Logs.bind {x : StateM Pass α} {f : α → StateM Pass β} {markups markups' : List Jsx}
    (hx : Logs ctx x markups) (hf : ∀ a, Logs ctx (f a) markups') :
    Logs ctx (x >>= f) (markups ++ markups') := by
  obtain ⟨a, e, ha, hl⟩ := hx
  obtain ⟨b, e', hb, hl'⟩ := hf a
  exact ⟨b, e + e', ha.bind hb, hl.append hl'⟩

theorem Logs.map {x : StateM Pass α} {markups : List Jsx} (hx : Logs ctx x markups) (g : α → β) :
    Logs ctx (x >>= fun a => pure (g a)) markups := by
  obtain ⟨a, e, ha, hl⟩ := hx
  exact ⟨g a, e, ha.map g, hl⟩

/-- A visit and the compilation of what it gives add the comments that annotate some pieces of
markup. -/
def LogsThen (ctx : Context) (x : StateM Pass α) (f : α → Compile β) (markups : List Jsx) : Prop :=
  ∃ b e, GivesThen ctx x f b e ∧ Annotates ctx markups e.comments

end Pass

section

variable {ctx : Context}

/-- A child in front of others. -/
theorem Child.logsThen_cons {child : Child} {children : List Child} {markups markups' : List Jsx}
    (h : LogsThen ctx (child.visit ctx) (Child.compile ctx) markups)
    (h' : LogsThen ctx (Child.visitAll ctx children) (Child.compileAll ctx) markups') :
    LogsThen ctx (Child.visitAll ctx (child :: children)) (Child.compileAll ctx)
      (markups ++ markups') := by
  obtain ⟨first, _, ⟨visited, e₁, e₂, hv, hc, rfl⟩, hl⟩ := h
  obtain ⟨rest, _, ⟨visited', e₁', e₂', hv', hc', rfl⟩, hl'⟩ := h'
  refine ⟨first.append rest, _, ⟨visited :: visited', e₁ + e₁', e₂ + e₂', hv.bind (hv'.map _),
    hc.bind ?_, rfl⟩, ?_⟩
  · rw [← add_zero e₂']
    exact hc'.bind (Compile.gives_pure _)
  · have hsum : (e₁ + e₁' + (e₂ + e₂')).comments =
        (e₁ + e₂).comments + (e₁' + e₂').comments := by
      rw [add_add_add_comm]
      rfl
    rw [hsum]
    exact hl.append hl'

/-- A piece of markup whose comments, apart from its own, are those of the markup inside it. -/
theorem Jsx.logsThen_of_annotated {markup visited : Jsx} {call : Node} {log : List Comment}
    {e e' : Effect} {below : Multiset Comment} {inner : List Jsx}
    (hv : Pass.Gives ctx (markup.visit ctx) visited e)
    (hc : Compile.Gives ctx (visited.compile ctx) call e') (hlog : call.Annotated markup.span log)
    (he : e'.comments = ↑log + below) (hinner : Annotates ctx inner (e.comments + below)) :
    LogsThen ctx (markup.visit ctx) (Jsx.compile ctx) (markup :: inner) := by
  have hgives : GivesThen ctx (markup.visit ctx) (Jsx.compile ctx) call (e + e') :=
    ⟨visited, e, e', hv, hc, rfl⟩
  have hsum : (e + e').comments = ↑log + (e.comments + below) := by
    calc
      (e + e').comments = e.comments + e'.comments := rfl
      _ = ↑log + (e.comments + below) := by
        rw [he]
        abel
  refine ⟨call, _, hgives, ?_⟩
  rw [hsum]
  exact Annotates.cons ⟨call, ⟨_, hgives⟩, hlog⟩ hinner

/-- The visit of attributes and their sorting add the comments that annotate some pieces of markup,
whatever the tag is and whatever has been sorted before. -/
def Attr.Logs {α : Type} (ctx : Context) (x : StateM Pass α)
    (f : α → ResolvedTag → List Attr → PropsState → Compile PropsState) (markups : List Jsx) :
    Prop :=
  ∃ visited e comments, Pass.Gives ctx x visited e ∧
    (∀ tag all state after e', Compile.Gives ctx (f visited tag all state) after e' →
      e'.comments = comments) ∧
    Annotates ctx markups (e.comments + comments)

mutual

/-- The visit of a node adds the comments of the markup in it. -/
theorem Node.logs_visit (ha : ctx.annotate = true) (node : Node)
    (h : Sound ctx.options node.markups) : Pass.Logs ctx (node.visit ctx) node.markups := by
  cases node with
  | hole => exact logs_pure _
  | ident name => exact logs_pure _
  | lit value => exact logs_pure _
  | paren span body => exact (Node.logs_visit ha body h).map _
  | array span elements => exact (Node.logs_visitAll ha elements h).map _
  | object span properties => exact (Node.logs_visitAll ha properties h).map _
  | spread dots operand => exact (Node.logs_visit ha operand h).map _
  | pair key value =>
    obtain ⟨hk, hv⟩ := sound_append_iff.mp h
    exact (Node.logs_visit ha key hk).bind fun _ => (Node.logs_visit ha value hv).map _
  | call span scope callee args =>
    obtain ⟨hc, hargs⟩ := sound_append_iff.mp h
    exact (Node.logs_visit ha callee hc).bind fun _ => (Node.logs_visitAll ha args hargs).map _
  | jsx markup =>
    obtain ⟨node, e, hg, hl⟩ := Jsx.logsThen_visit ha markup h
    have hsum : (e + .replacement).comments = e.comments := add_zero _
    refine ⟨node, e + .replacement, Node.gives_visit_jsx hg, ?_⟩
    rw [hsum]
    exact hl
  | group items => exact (Node.logs_visitAll ha items h).map _
  | form label parts => exact (Node.logs_visitAll ha parts h).map _

/-- The visit of nodes adds the comments of the markup in them. -/
theorem Node.logs_visitAll (ha : ctx.annotate = true) (nodes : List Node)
    (h : Sound ctx.options (Node.markupsAll nodes)) :
    Pass.Logs ctx (Node.visitAll ctx nodes) (Node.markupsAll nodes) := by
  cases nodes with
  | nil => exact logs_pure _
  | cons node nodes =>
    obtain ⟨hn, hs⟩ := sound_append_iff.mp h
    exact (Node.logs_visit ha node hn).bind fun _ => (Node.logs_visitAll ha nodes hs).map _

/-- Visiting the parts of markup and compiling it adds its comments and those of the markup
inside. -/
theorem Jsx.logsThen_visit (ha : ctx.annotate = true) (markup : Jsx)
    (h : Sound ctx.options markup.markups) :
    LogsThen ctx (markup.visit ctx) (Jsx.compile ctx) markup.markups := by
  cases markup with
  | element span opening attrs children closing =>
    have hparts := h
    rw [Jsx.markups, sound_cons_iff, sound_append_iff] at hparts
    obtain ⟨_, hattrs, hchildren⟩ := hparts
    obtain ⟨visitedAttrs, e₁, beside, hva, hsorted, hla⟩ := Attr.logs_visitAll ha attrs hattrs
    obtain ⟨items, _, ⟨visitedChildren, e₂, below, hvc, hcc, rfl⟩, hlc⟩ :=
      Child.logsThen_visitAll ha children hchildren
    have hv : Pass.Gives ctx ((Jsx.element span opening attrs children closing).visit ctx)
        (.element span opening visitedAttrs visitedChildren closing) (e₁ + e₂) :=
      hva.bind (hvc.map _)
    obtain ⟨call, e, hc⟩ := Jsx.exists_gives_compile h hv
    obtain ⟨log, hlog, he⟩ := Jsx.exists_annotated_element ha hc hcc hsorted
    have hinner : (e₁ + e₂).comments + (beside + below.comments) =
        (e₁.comments + beside) + (e₂ + below).comments := add_add_add_comm _ _ _ _
    refine Jsx.logsThen_of_annotated hv hc hlog he ?_
    rw [hinner]
    exact hla.append hlc
  | fragment span opening closing children =>
    have hparts := h
    rw [Jsx.markups, sound_cons_iff] at hparts
    obtain ⟨items, _, ⟨visited, e₁, below, hvc, hcc, rfl⟩, hlc⟩ :=
      Child.logsThen_visitAll ha children hparts.2
    have hv : Pass.Gives ctx ((Jsx.fragment span opening closing children).visit ctx)
        (.fragment span opening closing visited) e₁ := hvc.map _
    obtain ⟨call, e, hc⟩ := Jsx.exists_gives_compile h hv
    obtain ⟨log, hlog, he⟩ := Jsx.exists_annotated_fragment ha hc hcc
    exact Jsx.logsThen_of_annotated hv hc hlog he hlc

/-- Visiting attributes and sorting them in adds the comments of the markup in their values. -/
theorem Attr.logs_visitAll (ha : ctx.annotate = true) (attrs : List Attr)
    (h : Sound ctx.options (Attr.markupsAll attrs)) :
    Attr.Logs ctx (Attr.visitAll ctx attrs)
      (fun visited tag all state => Attr.compileAll ctx tag all state visited)
      (Attr.markupsAll attrs) := by
  cases attrs with
  | nil =>
    refine ⟨[], 0, 0, Pass.gives_pure _, fun tag all state after e' hc => ?_, annotates_nil⟩
    exact hc.comments_of_keeps (keepsComments_pure _)
  | cons attr attrs =>
    obtain ⟨hattr, hattrs⟩ := sound_append_iff.mp h
    obtain ⟨visited, e₁, beside, hv, hc, hl⟩ := Attr.logs_visit ha attr hattr
    obtain ⟨visited', e₂, beside', hv', hc', hl'⟩ := Attr.logs_visitAll ha attrs hattrs
    refine ⟨visited :: visited', e₁ + e₂, beside + beside', hv.bind (hv'.map _), ?_, ?_⟩
    · intro tag all state after e' hg
      have hu := steps_uniform ctx
      obtain ⟨next, _, _, hfirst, hrest, he⟩ := hg.exists_comments_of_bind
        (Attr.steps_compile hu ctx tag all visited state) fun next =>
          Attr.steps_compileAll hu ctx tag all visited' next
      rw [he, hc _ _ _ _ _ hfirst, hc' _ _ _ _ _ hrest]
    · have hsum : (e₁ + e₂).comments + (beside + beside') =
          (e₁.comments + beside) + (e₂.comments + beside') := add_add_add_comm _ _ _ _
      rw [hsum]
      exact hl.append hl'

/-- Visiting an attribute and sorting it in adds the comments of the markup in its value. -/
theorem Attr.logs_visit (ha : ctx.annotate = true) (attr : Attr)
    (h : Sound ctx.options attr.markups) :
    Attr.Logs ctx (attr.visit ctx)
      (fun visited tag all state => visited.compile ctx tag all state) attr.markups := by
  cases attr with
  | named span name value =>
    obtain ⟨compiled, _, ⟨visited, e₁, below, hv, hc, rfl⟩, hl⟩ :=
      AttrValue.logsThen_visit ha value h
    exact ⟨.named span name visited, e₁, below.comments, hv.map _,
      fun tag all state _ _ hg => Attr.comments_named hc tag all state hg, hl⟩
  | spread dots operand =>
    obtain ⟨visited, e, hv, hl⟩ := Node.logs_visit ha operand h
    refine ⟨.spread dots visited, e, 0, hv.map _, fun tag all state after e' hg => ?_, ?_⟩
    · exact hg.comments_of_keeps (keepsComments_pure _)
    · rw [add_zero]
      exact hl

/-- Visiting a value and compiling it adds the comments of the markup in it. -/
theorem AttrValue.logsThen_visit (ha : ctx.annotate = true) (value : AttrValue)
    (h : Sound ctx.options value.markups) :
    LogsThen ctx (value.visit ctx) (AttrValue.compile ctx) value.markups := by
  cases value with
  | container span body =>
    obtain ⟨node, e, hv, hl⟩ := Node.logs_visit ha body h
    refine ⟨some node, e, ⟨_, e, 0, hv.map _, Compile.gives_pure _, (add_zero e).symm⟩, hl⟩
  | jsx markup =>
    obtain ⟨node, _, ⟨visited, e₁, e₂, hv, hc, rfl⟩, hl⟩ := Jsx.logsThen_visit ha markup h
    exact ⟨some node, _, ⟨_, e₁, e₂, hv.map _, AttrValue.gives_compile_jsx hc, rfl⟩, hl⟩
  | _ => exact ⟨_, 0, ⟨_, 0, 0, Pass.gives_pure _, Compile.gives_pure _, rfl⟩, annotates_nil⟩

/-- Visiting children and compiling them adds the comments of the markup among them and inside
them. -/
theorem Child.logsThen_visitAll (ha : ctx.annotate = true) (children : List Child)
    (h : Sound ctx.options (Child.markupsAll children)) :
    LogsThen ctx (Child.visitAll ctx children) (Child.compileAll ctx)
      (Child.markupsAll children) := by
  cases children with
  | nil => exact ⟨_, 0, ⟨_, 0, 0, Pass.gives_pure _, Compile.gives_pure _, rfl⟩, annotates_nil⟩
  | cons child children =>
    obtain ⟨hchild, hchildren⟩ := sound_append_iff.mp h
    exact Child.logsThen_cons (Child.logsThen_visit ha child hchild)
      (Child.logsThen_visitAll ha children hchildren)

/-- Visiting a child and compiling it adds the comments of the markup in it. -/
theorem Child.logsThen_visit (ha : ctx.annotate = true) (child : Child)
    (h : Sound ctx.options child.markups) :
    LogsThen ctx (child.visit ctx) (Child.compile ctx) child.markups := by
  cases child with
  | container span body =>
    obtain ⟨node, e, hv, hl⟩ := Node.logs_visit ha body h
    exact ⟨_, e, Child.givesThen_container span hv, hl⟩
  | spread span operand =>
    obtain ⟨node, e, hv, hl⟩ := Node.logs_visit ha operand h
    exact ⟨_, e, Child.givesThen_spread span hv, hl⟩
  | jsx markup =>
    obtain ⟨node, e, hg, hl⟩ := Jsx.logsThen_visit ha markup h
    exact ⟨_, e, Child.givesThen_jsx hg, hl⟩
  | _ => exact ⟨_, 0, ⟨_, 0, 0, Pass.gives_pure _, Compile.gives_pure _, rfl⟩, annotates_nil⟩

end

end

namespace Program

/-- The comments of a program that compiles annotate the flags of its markup. -/
structure Annotated (options : Options) (program : Program) : Prop where
  /-- The calls for the outermost markup stand in its place, behind the declarations. -/
  placed : ∃ calls, List.Forall₂ (Jsx.Constructs (program.context options true))
      (Node.outermostAll program.body) calls ∧
    (program.compile options true).program.body =
      (program.requestedImports options true).declarations program.kind ++
        (Node.fillAll program.body calls).1
  /-- Each piece of markup, wherever it stands, has the comments that annotate its call, and there
  are no others. -/
  logged : ∃ logs : List (List Comment),
    List.Forall₂ (Jsx.Annotated (program.context options true)) (Node.markupsAll program.body)
      logs ∧
    (program.compile options true).comments.Perm logs.flatten

section

variable {options : Options} {program : Program}

/-- The passes with and without comments end with the same items, and in the same state but for
comments. -/
theorem visited_agrees (options : Options) (program : Program) :
    (program.visited options true).1 = (program.visited options false).1 ∧
      (program.visited options true).2.Agrees (program.visited options false).2 :=
  Node.matches_visitAll (program.context options true) program.body _ _ ⟨rfl, rfl, rfl⟩

/-- Comments make no difference to what a compilation gives. -/
theorem compile_unannotated (options : Options) (program : Program) :
    (program.compile options true).result = (program.compile options false).result ∧
      (program.compile options true).program = (program.compile options false).program := by
  obtain ⟨hitems, himports, hcompiled, hfault⟩ := visited_agrees options program
  cases hf : (program.visited options true).2.fault with
  | none =>
    rw [compile_of_fault_eq_none hf, compile_of_fault_eq_none (hfault ▸ hf), hitems, himports,
      hcompiled]
    exact ⟨rfl, rfl⟩
  | some fault =>
    rw [compile_result_of_fault_eq_some hf, compile_program_of_fault_eq_some hf,
      compile_result_of_fault_eq_some (hfault ▸ hf),
      compile_program_of_fault_eq_some (hfault ▸ hf), hitems]
    exact ⟨rfl, rfl⟩

/-- The comments of a program that compiles are those of its pieces of markup. -/
theorem annotated_of_result {count : Nat}
    (h : (program.compile options true).result = .ok count) : program.Annotated options := by
  have hfault := fault_eq_none_of_result h
  refine ⟨exists_calls_placed hfault, ?_⟩
  have hannotate : (program.context options true).annotate = true := rfl
  obtain ⟨_, e, hg, logs, hlogs, hcomments⟩ :=
    Node.logs_visitAll hannotate program.body (fault_eq_none_iff_sound.mp hfault)
  obtain ⟨requests, comments, replaced, hx, rfl⟩ := hg _ (ready_start _)
  refine ⟨logs, hlogs, ?_⟩
  have hpass : (program.visited options true).2.session.comments = comments :=
    congrArg (·.2.session.comments) hx
  rw [compile_of_fault_eq_none hfault, hpass]
  exact Multiset.coe_eq_coe.mp hcomments

end

/-- Comments annotate flags and do not interfere. With and without them a compilation gives the same
program and the same count or fault. If it succeeds, the comments are those of the pieces of markup
in the program, at any depth: none for a piece whose call has no flag and for one without a place in
the source, and one for every other piece. That one stands at the end of the piece, where the flag
is written, and consists of names of flags whose union is the flag. -/
theorem compile_annotates (options : Options) (program : Program) :
    (program.compile options true).result = (program.compile options false).result ∧
    (program.compile options true).program = (program.compile options false).program ∧
    ∀ count, (program.compile options true).result = .ok count → program.Annotated options := by
  obtain ⟨hresult, hprogram⟩ := compile_unannotated options program
  exact ⟨hresult, hprogram, fun count h => annotated_of_result h⟩

/-- The module `<><p id={x} ref/>{y}</>`. -/
def flaggedInFragment : Program where
  kind := .module
  span := .dummy
  interpreter := none
  body := [.plain .expressionStatement [.jsx (.fragment ⟨1, 24⟩ .dummy .dummy
    [.jsx (.element ⟨3, 18⟩ (sample.tag "p")
      [.named .dummy (.plain (.generated "id")) (.container .dummy (.ref "x")),
        .named .dummy (.plain (.generated "ref")) .bare] [] none),
      .container .dummy (.ref "y")])]]

/-- The element inside is annotated at its end, and then the fragment around it. -/
theorem flaggedInFragment_compile_annotates :
    (flaggedInFragment.compile .default true).result = .ok 1 ∧
      (flaggedInFragment.compile .default true).comments = [⟨18, " PROPS "⟩, ⟨24, " BAIL "⟩] ∧
      (flaggedInFragment.compile .default false).result = .ok 1 ∧
      flaggedInFragment.Annotated .default := by
  have hresult : (flaggedInFragment.compile .default true).result = .ok 1 := by decide +kernel
  have hcomments : (flaggedInFragment.compile .default true).comments =
      [⟨18, " PROPS "⟩, ⟨24, " BAIL "⟩] := by decide +kernel
  obtain ⟨hsame, _, hannotated⟩ := compile_annotates .default flaggedInFragment
  exact ⟨hresult, hcomments, hsame ▸ hresult, hannotated 1 hresult⟩

end Program

end JsxVNode
