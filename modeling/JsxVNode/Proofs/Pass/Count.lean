import JsxVNode.Proofs.Pass.Run
import JsxVNode.Proofs.Tree.Roots

/-!
# How many pieces are replaced

The pass counts its replacements while it goes through a tree that changes under it:
the inner roots are calls already when the markup around them is replaced. The number
is still the one that is read off the tree as it was written. A visit that ends without
a fault has counted each root in what it visits once, and the counts of one visit after
another add up.
-/

namespace JsxVNode

namespace Pass

variable {α β : Type}

/-- A computation counts `n` replacements. If it ends without a fault, there was none before it, and
the counter has gone up by `n`. -/
def Counts (x : StateM Pass α) (n : Nat) : Prop :=
  ∀ pass : Pass, (pass.exec x).2.fault = none →
    pass.fault = none ∧ (pass.exec x).2.compiled = pass.compiled + n

theorem counts_pure (a : α) : Counts (pure a) 0 := fun _ h => ⟨h, rfl⟩

/-- The replacements of two visits add up. -/
theorem Counts.bind {x : StateM Pass α} {f : α → StateM Pass β} {n m : Nat} (hx : Counts x n)
    (hf : ∀ a, Counts (f a) m) : Counts (x >>= f) (n + m) := by
  intro pass h
  rw [exec_bind] at h ⊢
  obtain ⟨hbetween, hsecond⟩ := hf _ _ h
  obtain ⟨hbefore, hfirst⟩ := hx pass hbetween
  exact ⟨hbefore, by omega⟩

/-- What follows a visit and only puts its result in place counts nothing. -/
theorem Counts.map {x : StateM Pass α} {n : Nat} (hx : Counts x n) (g : α → β) :
    Counts (x >>= fun a => pure (g a)) n :=
  hx.bind fun a => counts_pure (g a)

/-- A replacement counts one, whatever the markup has become by then. -/
theorem counts_replace (ctx : Context) (markup : Jsx) : Counts (markup.replace ctx) 1 := by
  intro pass h
  have hr := Jsx.replaced ctx markup pass
  generalize pass.exec (markup.replace ctx) = result at h hr ⊢
  cases hr with
  | ended hs =>
    rw [h] at hs
    cases hs
  | compiled hn _ => exact ⟨hn, rfl⟩
  | failed _ _ => cases h

end Pass

open Pass

mutual

/-- The visit of a node counts its roots. -/
theorem Node.counts_visit (ctx : Context) (node : Node) :
    Counts (node.visit ctx) node.roots.length := by
  cases node with
  | hole => exact counts_pure _
  | ident name => exact counts_pure _
  | lit value => exact counts_pure _
  | paren span body => exact (Node.counts_visit ctx body).map _
  | array span elements => exact (Node.counts_visitAll ctx elements).map _
  | object span properties => exact (Node.counts_visitAll ctx properties).map _
  | spread dots operand => exact (Node.counts_visit ctx operand).map _
  | pair key value =>
    rw [Node.roots, List.length_append]
    exact (Node.counts_visit ctx key).bind fun _ => (Node.counts_visit ctx value).map _
  | call span scope callee args =>
    rw [Node.roots, List.length_append]
    exact (Node.counts_visit ctx callee).bind fun _ => (Node.counts_visitAll ctx args).map _
  | jsx markup =>
    rw [Node.roots, List.length_append]
    exact (Jsx.counts_visit ctx markup).bind fun visited => counts_replace ctx visited
  | group items => exact (Node.counts_visitAll ctx items).map _
  | form label parts => exact (Node.counts_visitAll ctx parts).map _

/-- A visit of nodes replaces their roots. -/
theorem Node.counts_visitAll (ctx : Context) (nodes : List Node) :
    Counts (Node.visitAll ctx nodes) (Node.rootsAll nodes).length := by
  cases nodes with
  | nil => exact counts_pure _
  | cons node nodes =>
    rw [Node.rootsAll, List.length_append]
    exact (Node.counts_visit ctx node).bind fun _ => (Node.counts_visitAll ctx nodes).map _

/-- A visit of the parts of markup replaces the roots inside it. -/
theorem Jsx.counts_visit (ctx : Context) (markup : Jsx) :
    Counts (markup.visit ctx) markup.innerRoots.length := by
  cases markup with
  | element span opening attrs children closing =>
    rw [Jsx.innerRoots, List.length_append]
    exact (Attr.counts_visitAll ctx attrs).bind fun _ => (Child.counts_visitAll ctx children).map _
  | fragment span opening closing children => exact (Child.counts_visitAll ctx children).map _

theorem Attr.counts_visitAll (ctx : Context) (attrs : List Attr) :
    Counts (Attr.visitAll ctx attrs) (Attr.rootsAll attrs).length := by
  cases attrs with
  | nil => exact counts_pure _
  | cons attr attrs =>
    rw [Attr.rootsAll, List.length_append]
    exact (Attr.counts_visit ctx attr).bind fun _ => (Attr.counts_visitAll ctx attrs).map _

theorem Attr.counts_visit (ctx : Context) (attr : Attr) :
    Counts (attr.visit ctx) attr.roots.length := by
  cases attr with
  | named span name value => exact (AttrValue.counts_visit ctx value).map _
  | spread dots operand => exact (Node.counts_visit ctx operand).map _

/-- A visit of a value replaces the roots in it, which attached markup is not. -/
theorem AttrValue.counts_visit (ctx : Context) (value : AttrValue) :
    Counts (value.visit ctx) value.roots.length := by
  cases value with
  | container span body => exact (Node.counts_visit ctx body).map _
  | jsx markup => exact (Jsx.counts_visit ctx markup).map _
  | _ => exact counts_pure _

theorem Child.counts_visitAll (ctx : Context) (children : List Child) :
    Counts (Child.visitAll ctx children) (Child.rootsAll children).length := by
  cases children with
  | nil => exact counts_pure _
  | cons child children =>
    rw [Child.rootsAll, List.length_append]
    exact (Child.counts_visit ctx child).bind fun _ => (Child.counts_visitAll ctx children).map _

/-- A visit of a child replaces the roots in it, which the child itself is not. -/
theorem Child.counts_visit (ctx : Context) (child : Child) :
    Counts (child.visit ctx) child.roots.length := by
  cases child with
  | container span body => exact (Node.counts_visit ctx body).map _
  | spread span operand => exact (Node.counts_visit ctx operand).map _
  | jsx markup => exact (Jsx.counts_visit ctx markup).map _
  | _ => exact counts_pure _

end

namespace Program

/-- The number that a compilation returns is the number of roots of the program as it was written.
These are all pieces of markup in it, at any depth, but those that are attached to another piece: a
child of it, or the direct value of one of its attributes. -/
theorem compile_counts_roots (options : Options) (annotate : Bool) (program : Program)
    (count : Nat) (h : (program.compile options annotate).result = .ok count) :
    count = (Node.rootsAll program.body).length ∧
      (Node.rootsAll program.body ++
        (Node.markupsAll program.body).flatMap Jsx.attached).Perm
        (Node.markupsAll program.body) := by
  refine ⟨?_, Node.rootsAll_append_attached_perm program.body⟩
  have hfault := fault_eq_none_of_result h
  obtain ⟨_, hcount⟩ := Node.counts_visitAll (program.context options annotate) program.body
    ⟨.new (program.context options annotate), 0, none⟩ hfault
  rw [compile_of_fault_eq_none hfault] at h
  rw [← Except.ok.inj h]
  exact hcount.trans (Nat.zero_add _)

/-- The module `<div id={<></>} title=<></> {...<></>}>{f(<></>)}<><></></></div>`: four roots, of
which three stand in expressions of the fourth, and three pieces that are attached. -/
def rootsInMarkup : Program where
  kind := .module
  span := .dummy
  interpreter := none
  body := [.plain .expressionStatement [.jsx (.element .dummy (sample.tag "div")
    [.named .dummy (.plain (.generated "id")) (.container .dummy (.jsx (pieces []))),
      .named .dummy (.plain (.generated "title")) (.jsx (pieces [])),
      .spread .dummy (.jsx (pieces []))]
    [.container .dummy (.invoke "f" [.jsx (pieces [])]), .jsx (pieces [.jsx (pieces [])])] none)]]
where
  /-- A fragment around children. -/
  pieces (children : List Child) : Jsx := .fragment .dummy .dummy .dummy children

/-- The four roots are counted; with the three attached pieces they are all markup of the module. -/
theorem rootsInMarkup_compile_counts_roots :
    (rootsInMarkup.compile .default false).result = .ok 4 ∧
      4 = (Node.rootsAll rootsInMarkup.body).length ∧
      ((Node.markupsAll rootsInMarkup.body).flatMap Jsx.attached).length = 3 ∧
      (Node.markupsAll rootsInMarkup.body).length = 7 := by
  have hresult : (rootsInMarkup.compile .default false).result = .ok 4 := by
    decide +kernel
  obtain ⟨hcount, hperm⟩ := compile_counts_roots .default false rootsInMarkup 4 hresult
  have hattached : ((Node.markupsAll rootsInMarkup.body).flatMap Jsx.attached).length = 3 := rfl
  refine ⟨hresult, hcount, hattached, ?_⟩
  rw [← hperm.length_eq, List.length_append, ← hcount, hattached]

end Program

end JsxVNode
