import JsxVNode.Proofs.Compile.Uniform
import JsxVNode.Proofs.Pass.Faults

/-!
# When markup is visited does not matter

A visit that meets no fault gives the same tree from every state of the pass in which
it can go on, and it adds the same requests, comments and replacements to the state.
If no markup in a tree is faulty, its visit is of this kind.
-/

namespace JsxVNode

namespace Pass

variable {ctx : Context} {α β : Type}

/-- A state in which the pass can go on. -/
structure Ready (ctx : Context) (pass : Pass) : Prop where
  served : pass.session.Served ctx
  fault : pass.fault = none

/-- A pass over a program starts ready. -/
theorem ready_start (ctx : Context) : Ready ctx ⟨.new ctx, 0, none⟩ := ⟨.refl _, rfl⟩

/-- A state after more requests, comments and replacements. -/
def extend (pass : Pass) (requests : List Imports.Request) (comments : List Comment)
    (count : Nat) : Pass :=
  ⟨pass.session.extend requests comments, pass.compiled + count, pass.fault⟩

/-- Requests, comments and replacements leave a pass ready, since none of them is a fault. -/
theorem Ready.extend {pass : Pass} (h : pass.Ready ctx) (requests : List Imports.Request)
    (comments : List Comment) (count : Nat) : (pass.extend requests comments count).Ready ctx :=
  ⟨h.served.extend requests comments, h.fault⟩

/-- From every state in which the pass can go on a visit gives the same, with the same effect. -/
def Gives (ctx : Context) (x : StateM Pass α) (a : α) (effect : Effect) : Prop :=
  ∀ pass : Pass, pass.Ready ctx → ∃ requests comments count,
    pass.exec x = (a, pass.extend requests comments count) ∧
      effect = (↑requests, ↑comments, count)

theorem gives_pure (a : α) : Gives ctx (pure a) a 0 := by
  intro pass _
  refine ⟨[], [], 0, ?_, rfl⟩
  rw [exec_pure, extend, Session.extend_nil]
  rfl

/-- Two visits after one another give what the second gives, and their effects add up. -/
theorem Gives.bind {x : StateM Pass α} {f : α → StateM Pass β} {a : α} {b : β} {e e' : Effect}
    (hx : Gives ctx x a e) (hf : Gives ctx (f a) b e') : Gives ctx (x >>= f) b (e + e') := by
  intro pass hp
  obtain ⟨requests, comments, count, ha, rfl⟩ := hx pass hp
  obtain ⟨requests', comments', count', hb, rfl⟩ := hf _ (hp.extend requests comments count)
  refine ⟨requests ++ requests', comments ++ comments', count + count', ?_, ?_⟩
  · rw [exec_bind, ha, hb]
    simp only [extend, Session.extend_extend, Nat.add_assoc]
  · rw [← Multiset.coe_add, ← Multiset.coe_add]
    rfl

/-- What follows a visit and only puts its result in place. -/
theorem Gives.map {x : StateM Pass α} {a : α} {e : Effect} (hx : Gives ctx x a e) (f : α → β) :
    Gives ctx (x >>= fun a => pure (f a)) (f a) e := by
  rw [← add_zero e]
  exact hx.bind (gives_pure (f a))

/-- A replacement gives what the markup compiles to. -/
theorem gives_replace {markup : Jsx} {node : Node} {e : Effect}
    (h : Compile.Gives ctx (markup.compile ctx) node e) :
    Gives ctx (markup.replace ctx) node (e + .replacement) := by
  intro pass hp
  obtain ⟨requests, comments, hr, rfl⟩ := h pass.session hp.served
  refine ⟨requests, comments, 1, ?_, ?_⟩
  · have hreplaced := Jsx.replaced ctx markup pass
    generalize pass.exec (markup.replace ctx) = result at hreplaced ⊢
    cases hreplaced with
    | ended hs =>
      rw [hp.fault] at hs
      cases hs
    | compiled _ hr' =>
      cases hr'.symm.trans hr
      rfl
    | failed _ hf => cases hf.symm.trans hr
  · simp [Effect.replacement]

variable {f : α → StateM Pass β}

/-- The visit of a list gives the item that its head gives before those of its tail. -/
theorem Gives.mapM_cons {x : α} {xs : List α} {b : β} {bs : List β} {e e' : Effect}
    (hx : Gives ctx (f x) b e) (hxs : Gives ctx (xs.mapM f) bs e') :
    Gives ctx ((x :: xs).mapM f) (b :: bs) (e + e') := by
  rw [List.mapM_cons]
  exact hx.bind (hxs.map _)

/-- The visit of two lists joined gives the results of both joined, and the effects of both. -/
theorem Gives.mapM_append {xs ys : List α} {bs cs : List β} {e e' : Effect}
    (hx : Gives ctx (xs.mapM f) bs e) (hy : Gives ctx (ys.mapM f) cs e') :
    Gives ctx ((xs ++ ys).mapM f) (bs ++ cs) (e + e') := by
  rw [List.mapM_append]
  exact hx.bind (hy.map _)

/-- A visit gives something. -/
def Settles (ctx : Context) (x : StateM Pass α) : Prop := ∃ a e, Gives ctx x a e

theorem settles_pure (a : α) : Settles ctx (pure a) := ⟨a, 0, gives_pure a⟩

/-- Two visits after one another settle if the second does whatever the first gives. -/
theorem Settles.bind {x : StateM Pass α} {g : α → StateM Pass β} (hx : Settles ctx x)
    (hg : ∀ a e, Gives ctx x a e → Settles ctx (g a)) : Settles ctx (x >>= g) := by
  obtain ⟨a, e, ha⟩ := hx
  obtain ⟨b, e', hb⟩ := hg a e ha
  exact ⟨b, e + e', ha.bind hb⟩

/-- A visit still settles after its result has been put in place. -/
theorem Settles.map {x : StateM Pass α} (hx : Settles ctx x) (g : α → β) :
    Settles ctx (x >>= fun a => pure (g a)) :=
  hx.bind fun _ _ _ => settles_pure _

end Pass

/-- Nodes are visited one by one, in their order. -/
theorem Node.visitAll_eq_mapM (ctx : Context) (nodes : List Node) :
    Node.visitAll ctx nodes = nodes.mapM (Node.visit ctx) := by
  induction nodes with
  | nil => rfl
  | cons node nodes ih => rw [Node.visitAll, List.mapM_cons, ih]

/-- Attributes are visited one by one, in their order. -/
theorem Attr.visitAll_eq_mapM (ctx : Context) (attrs : List Attr) :
    Attr.visitAll ctx attrs = attrs.mapM (Attr.visit ctx) := by
  induction attrs with
  | nil => rfl
  | cons attr attrs ih => rw [Attr.visitAll, List.mapM_cons, ih]

/-- Children are visited one by one, in their order. -/
theorem Child.visitAll_eq_mapM (ctx : Context) (children : List Child) :
    Child.visitAll ctx children = children.mapM (Child.visit ctx) := by
  induction children with
  | nil => rfl
  | cons child children ih => rw [Child.visitAll, List.mapM_cons, ih]

open Pass

/-- Once it has been visited, markup without faults compiles. -/
theorem Jsx.exists_gives_compile {ctx : Context} {markup visited : Jsx} {e : Effect}
    (hs : Sound ctx.options markup.markups) (hv : Pass.Gives ctx (markup.visit ctx) visited e) :
    ∃ node e', Compile.Gives ctx (visited.compile ctx) node e' := by
  obtain ⟨requests, comments, count, hx, _⟩ := hv _ (ready_start ctx)
  have hfault := Jsx.fault_visit_iff ctx markup ⟨.new ctx, 0, none⟩
  rw [hx] at hfault
  refine (Jsx.steps_compile (Compile.steps_uniform ctx) ctx visited).exists_gives
    (Session.served_new ctx) ?_
  rw [Jsx.fails_compile_iff]
  intro hf
  rcases hfault.mp (Or.inr hf) with hn | ⟨inner, hm, hi⟩
  · cases hn
  · exact hs inner hm hi

mutual

/-- The visit of a node in which no markup is faulty gives something. -/
theorem Node.settles_visit (ctx : Context) (node : Node) (h : Sound ctx.options node.markups) :
    Settles ctx (node.visit ctx) := by
  cases node with
  | hole => exact settles_pure _
  | ident name => exact settles_pure _
  | lit value => exact settles_pure _
  | paren span body => exact (Node.settles_visit ctx body h).map _
  | array span elements => exact (Node.settles_visitAll ctx elements h).map _
  | object span properties => exact (Node.settles_visitAll ctx properties h).map _
  | spread dots operand => exact (Node.settles_visit ctx operand h).map _
  | pair key value =>
    obtain ⟨hk, hv⟩ := sound_append_iff.mp h
    exact (Node.settles_visit ctx key hk).bind fun _ _ _ => (Node.settles_visit ctx value hv).map _
  | call span scope callee args =>
    obtain ⟨hc, ha⟩ := sound_append_iff.mp h
    exact (Node.settles_visit ctx callee hc).bind fun _ _ _ =>
      (Node.settles_visitAll ctx args ha).map _
  | jsx markup =>
    refine (Jsx.settles_visit ctx markup h).bind fun visited e hv => ?_
    obtain ⟨node, e', hn⟩ := Jsx.exists_gives_compile h hv
    exact ⟨node, _, gives_replace hn⟩
  | group items => exact (Node.settles_visitAll ctx items h).map _
  | form label parts => exact (Node.settles_visitAll ctx parts h).map _

/-- The visit of nodes in which no markup is faulty gives something. -/
theorem Node.settles_visitAll (ctx : Context) (nodes : List Node)
    (h : Sound ctx.options (Node.markupsAll nodes)) : Settles ctx (Node.visitAll ctx nodes) := by
  cases nodes with
  | nil => exact settles_pure _
  | cons node nodes =>
    obtain ⟨hn, hs⟩ := sound_append_iff.mp h
    exact (Node.settles_visit ctx node hn).bind fun _ _ _ =>
      (Node.settles_visitAll ctx nodes hs).map _

/-- The visit of the parts of sound markup gives something. -/
theorem Jsx.settles_visit (ctx : Context) (markup : Jsx)
    (h : Sound ctx.options markup.markups) : Settles ctx (markup.visit ctx) := by
  cases markup with
  | element span opening attrs children closing =>
    rw [Jsx.markups, sound_cons_iff, sound_append_iff] at h
    exact (Attr.settles_visitAll ctx attrs h.2.1).bind fun _ _ _ =>
      (Child.settles_visitAll ctx children h.2.2).map _
  | fragment span opening closing children =>
    rw [Jsx.markups, sound_cons_iff] at h
    exact (Child.settles_visitAll ctx children h.2).map _

theorem Attr.settles_visitAll (ctx : Context) (attrs : List Attr)
    (h : Sound ctx.options (Attr.markupsAll attrs)) : Settles ctx (Attr.visitAll ctx attrs) := by
  cases attrs with
  | nil => exact settles_pure _
  | cons attr attrs =>
    obtain ⟨ha, hs⟩ := sound_append_iff.mp h
    exact (Attr.settles_visit ctx attr ha).bind fun _ _ _ =>
      (Attr.settles_visitAll ctx attrs hs).map _

/-- The visit of an attribute in which no markup is faulty gives something. -/
theorem Attr.settles_visit (ctx : Context) (attr : Attr) (h : Sound ctx.options attr.markups) :
    Settles ctx (attr.visit ctx) := by
  cases attr with
  | named span name value => exact (AttrValue.settles_visit ctx value h).map _
  | spread dots operand => exact (Node.settles_visit ctx operand h).map _

/-- The visit of a value in which no markup is faulty gives something. -/
theorem AttrValue.settles_visit (ctx : Context) (value : AttrValue)
    (h : Sound ctx.options value.markups) : Settles ctx (value.visit ctx) := by
  cases value with
  | container span body => exact (Node.settles_visit ctx body h).map _
  | jsx markup => exact (Jsx.settles_visit ctx markup h).map _
  | _ => exact settles_pure _

theorem Child.settles_visitAll (ctx : Context) (children : List Child)
    (h : Sound ctx.options (Child.markupsAll children)) :
    Settles ctx (Child.visitAll ctx children) := by
  cases children with
  | nil => exact settles_pure _
  | cons child children =>
    obtain ⟨hc, hs⟩ := sound_append_iff.mp h
    exact (Child.settles_visit ctx child hc).bind fun _ _ _ =>
      (Child.settles_visitAll ctx children hs).map _

theorem Child.settles_visit (ctx : Context) (child : Child)
    (h : Sound ctx.options child.markups) : Settles ctx (child.visit ctx) := by
  cases child with
  | container span body => exact (Node.settles_visit ctx body h).map _
  | spread span operand => exact (Node.settles_visit ctx operand h).map _
  | jsx markup => exact (Jsx.settles_visit ctx markup h).map _
  | _ => exact settles_pure _

end

end JsxVNode
