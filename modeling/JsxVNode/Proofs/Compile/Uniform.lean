import JsxVNode.Proofs.Compile.Requests
import JsxVNode.Proofs.Imports.Locals
import Mathlib.Algebra.Group.Prod
import Mathlib.Algebra.Order.Group.Multiset
import Mathlib.Tactic.Abel

/-!
# When markup is compiled does not matter

A request is answered by the same name whatever was requested before it. So a step of
a compilation is uniform: it fails from every session of a file, or it returns the
same value from every one and adds the same requests and comments to it. What steps
add is counted without regard to its order, so the effects of steps can be exchanged.
-/

namespace JsxVNode

/-- What a computation adds to the state of the pass, in whatever order: requests, comments, and
the number of replaced pieces of markup. -/
abbrev Effect : Type := Multiset Imports.Request × Multiset Comment × ℕ

/-- One piece of markup is replaced. -/
def Effect.replacement : Effect := (0, 0, 1)

namespace Session

/-- The imports of a session are those of a file after some requests. -/
def Served (ctx : Context) (s : Session) : Prop :=
  (Imports.new ctx.options ctx.bindings).LeadsTo s.imports

theorem served_new (ctx : Context) : (new ctx).Served ctx := .refl _

/-- A session after more requests and comments. -/
def extend (s : Session) (requests : List Imports.Request) (comments : List Comment) : Session :=
  ⟨s.imports.serveAll requests, s.comments ++ comments⟩

@[simp] theorem extend_nil (s : Session) : s.extend [] [] = s := by
  rw [extend, List.append_nil]
  rfl

/-- Effects that come one after the other extend a session as all of them at once. -/
theorem extend_extend (s : Session) (requests requests' : List Imports.Request)
    (comments comments' : List Comment) :
    (s.extend requests comments).extend requests' comments' =
      s.extend (requests ++ requests') (comments ++ comments') := by
  simp only [extend, Imports.serveAll_append, List.append_assoc]

/-- Sessions keep the pragma of their options however many requests they serve. -/
theorem Served.extend {ctx : Context} {s : Session} (h : s.Served ctx)
    (requests : List Imports.Request) (comments : List Comment) :
    (s.extend requests comments).Served ctx := by
  obtain ⟨before, hb⟩ := h
  exact ⟨before ++ requests, by rw [Session.extend, hb, Imports.serveAll_append]⟩

end Session

namespace Compile

variable {ctx : Context} {α β : Type}

/-- From every session of a file a step returns the same value, with the same effect. -/
def Gives (ctx : Context) (x : Compile α) (a : α) (effect : Effect) : Prop :=
  ∀ s, s.Served ctx → ∃ requests comments,
    Returns x s a (s.extend requests comments) ∧ effect = (↑requests, ↑comments, 0)

theorem gives_pure (a : α) : Gives ctx (pure a) a 0 := by
  intro s _
  exact ⟨[], [], returns_pure_iff.mpr ⟨rfl, s.extend_nil.symm⟩, rfl⟩

/-- What two steps give is given by the second, and their effects add up. -/
theorem Gives.bind {x : Compile α} {f : α → Compile β} {a : α} {b : β} {e e' : Effect}
    (hx : Gives ctx x a e) (hf : Gives ctx (f a) b e') : Gives ctx (x >>= f) b (e + e') := by
  intro s hs
  obtain ⟨requests, comments, ha, rfl⟩ := hx s hs
  obtain ⟨requests', comments', hb, rfl⟩ := hf _ (hs.extend requests comments)
  refine ⟨requests ++ requests', comments ++ comments', ?_, ?_⟩
  · rw [← Session.extend_extend]
    exact returns_bind_iff.mpr ⟨a, _, ha, hb⟩
  · rw [← Multiset.coe_add, ← Multiset.coe_add]
    rfl

/-- A request is answered by the local name of its symbol. -/
theorem gives_request (r : Imports.Request) {f : Imports → String × Imports}
    (hf : ∀ s : Session, s.Served ctx → f s.imports = (s.imports.answer r, s.imports.serve r)) :
    Gives ctx (request f) (r.localName ctx.bindings.names) ({r}, 0, 0) := by
  intro s hs
  have hanswer : s.imports.answer r = r.localName ctx.bindings.names := by
    obtain ⟨requests, hr⟩ := hs
    rw [hr]
    exact ((Imports.servedBy_serveAll _ _ _).serve r).1
  refine ⟨[r], [], returns_request_iff.mpr ?_, rfl⟩
  rw [hf s hs, Session.extend, List.append_nil]
  exact ⟨hanswer, rfl⟩

/-- A step that gives a value returns it from every session of the file. -/
theorem Gives.exists_returns {x : Compile α} {a : α} {e : Effect} (h : Gives ctx x a e)
    {s : Session} (hs : s.Served ctx) : ∃ s', s'.Served ctx ∧ Returns x s a s' := by
  obtain ⟨requests, comments, hr, _⟩ := h s hs
  exact ⟨_, hs.extend requests comments, hr⟩

/-- A step gives one value. -/
theorem Gives.unique {x : Compile α} {a a' : α} {e e' : Effect} (h : Gives ctx x a e)
    (h' : Gives ctx x a' e') : a = a' := by
  obtain ⟨_, _, hr⟩ := h.exists_returns (Session.served_new ctx)
  obtain ⟨_, _, hr'⟩ := h'.exists_returns (Session.served_new ctx)
  cases hr.symm.trans hr'
  rfl

/-- What every run returns, a step gives. -/
theorem Gives.of_yields {x : Compile α} {a : α} {e : Effect} (h : Gives ctx x a e)
    {Q : α → Prop} (hq : Yields x Q) : Q a := by
  obtain ⟨s', _, hr⟩ := h.exists_returns (Session.served_new ctx)
  exact hq _ _ _ hr

/-- A step does the same from every session of a file: it fails, or it gives a value. -/
def Uniform (ctx : Context) {α : Type} (x : Compile α) : Prop :=
  (∃ a e, Gives ctx x a e) ∨ ∀ s, s.Served ctx → Fails x s

/-- Two steps are uniform if each of them is, whatever the first one gives. -/
theorem Uniform.bind {x : Compile α} {f : α → Compile β} (hx : Uniform ctx x)
    (hf : ∀ a, Uniform ctx (f a)) : Uniform ctx (x >>= f) := by
  rcases hx with ⟨a, e, ha⟩ | hx
  · rcases hf a with ⟨b, e', hb⟩ | hf
    · exact Or.inl ⟨b, e + e', ha.bind hb⟩
    · refine Or.inr fun s hs => fails_bind_iff.mpr (Or.inr ?_)
      obtain ⟨s', hs', hr⟩ := ha.exists_returns hs
      exact ⟨a, s', hr, hf s' hs'⟩
  · exact Or.inr fun s hs => fails_bind_iff.mpr (Or.inl (hx s hs))

/-- Everything the compiler does is uniform. -/
theorem steps_uniform (ctx : Context) : Steps (Uniform ctx) where
  pure a := Or.inl ⟨a, 0, gives_pure a⟩
  throw _ := Or.inr fun _ _ => fails_throw
  bind := Uniform.bind
  comment position text :=
    Or.inl ⟨(), (0, {⟨position, text⟩}, 0), fun s _ => ⟨[], [⟨position, text⟩], rfl, rfl⟩⟩
  get symbol _ _ := Or.inl ⟨_, _, gives_request (.runtime symbol) fun _ _ => rfl⟩
  mergeProps := Or.inl ⟨_, _, gives_request (.runtime .mergeProps) fun _ _ => rfl⟩
  transformOn := Or.inl ⟨_, _, gives_request .transformOn fun _ _ => rfl⟩
  isSlot := Or.inl ⟨_, _, gives_request .slotTest fun _ _ => rfl⟩
  factory := by
    -- The options name a factory, or the one of the runtime is requested.
    have hpragma {s : Session} (hs : s.Served ctx) : s.imports.pragma = ctx.options.pragma := by
      obtain ⟨requests, hr⟩ := hs
      rw [hr, Imports.pragma_serveAll]
      rfl
    cases hp : ctx.options.pragma with
    | some pragma =>
      refine Or.inl ⟨pragma, 0, fun s hs => ⟨[], [], ?_, rfl⟩⟩
      rw [returns_request_iff, Imports.factory, hpragma hs, hp]
      exact ⟨rfl, s.extend_nil.symm⟩
    | none =>
      refine Or.inl ⟨_, _, gives_request (.runtime .createVNode) fun s hs => ?_⟩
      rw [Imports.factory, hpragma hs, hp]
      rfl

/-- A uniform step that does not fail gives a value. -/
theorem Uniform.exists_gives {x : Compile α} (hx : Uniform ctx x) {s : Session}
    (hs : s.Served ctx) (h : ¬ Fails x s) : ∃ a e, Gives ctx x a e :=
  hx.resolve_right fun hf => h (hf s hs)

/-- If two steps together give a value, so does each of them. -/
theorem Gives.exists_of_bind {x : Compile α} {f : α → Compile β} {b : β} {e : Effect}
    (h : Gives ctx (x >>= f) b e) (hx : Uniform ctx x) (hf : ∀ a, Uniform ctx (f a)) :
    ∃ a e₁ e₂, Gives ctx x a e₁ ∧ Gives ctx (f a) b e₂ := by
  obtain ⟨_, _, hr⟩ := h.exists_returns (Session.served_new ctx)
  obtain ⟨a, s, ha, hb⟩ := returns_bind_iff.mp hr
  obtain ⟨a', e₁, hg⟩ := hx.exists_gives (Session.served_new ctx) (not_fails_of_returns ha)
  obtain ⟨s', hs', hr'⟩ := hg.exists_returns (Session.served_new ctx)
  cases hr'.symm.trans ha
  obtain ⟨b', e₂, hg'⟩ := (hf a).exists_gives hs' (not_fails_of_returns hb)
  obtain ⟨_, _, hr''⟩ := hg'.exists_returns hs'
  cases hr''.symm.trans hb
  exact ⟨a, e₁, e₂, hg, hg'⟩

/-- Two computations give the same, but where one has the effect `e`, the other has `e'`. -/
def Exchanges (ctx : Context) (e e' : Effect) (x x' : Compile α) : Prop :=
  ∀ a effect, Gives ctx x a effect →
    ∃ rest, Gives ctx x a (e + rest) ∧ Gives ctx x' a (e' + rest)

theorem exchanges_refl (x : Compile α) : Exchanges ctx 0 0 x x := by
  intro a e h
  rw [← zero_add e] at h
  exact ⟨e, h, h⟩

variable {e e' : Effect} {x x' : Compile α}

/-- The exchange happens in the first of two steps, whose values are used alike. -/
theorem exchanges_bind {f f' : α → Compile β} {a a' : α} (hx : Gives ctx x a e)
    (hx' : Gives ctx x' a' e') (hu : Uniform ctx x) (hf : ∀ a, Uniform ctx (f a))
    (heq : f a = f' a') : Exchanges ctx e e' (x >>= f) (x' >>= f') := by
  intro b effect h
  obtain ⟨a₁, e₁, e₂, ha, hb⟩ := h.exists_of_bind hu hf
  cases ha.unique hx
  refine ⟨e₂, hx.bind hb, hx'.bind ?_⟩
  rw [← heq]
  exact hb

/-- The exchange happens somewhere in the first of two steps. -/
theorem Exchanges.bind {f : α → Compile β} (h : Exchanges ctx e e' x x') (hx : Uniform ctx x)
    (hf : ∀ a, Uniform ctx (f a)) : Exchanges ctx e e' (x >>= f) (x' >>= f) := by
  intro b effect hb
  obtain ⟨a, e₁, e₂, ha, hb⟩ := hb.exists_of_bind hx hf
  obtain ⟨rest, hg, hg'⟩ := h a e₁ ha
  refine ⟨rest + e₂, ?_, ?_⟩
  · rw [← add_assoc]
    exact hg.bind hb
  · rw [← add_assoc]
    exact hg'.bind hb

/-- The exchange happens in the second of two steps. -/
theorem Exchanges.bind_right {y : Compile β} {f f' : β → Compile α} (hy : Uniform ctx y)
    (hf : ∀ b, Uniform ctx (f b))
    (h : ∀ b effect, Gives ctx y b effect → Exchanges ctx e e' (f b) (f' b)) :
    Exchanges ctx e e' (y >>= f) (y >>= f') := by
  intro a effect ha
  obtain ⟨b, e₁, e₂, hb, ha⟩ := ha.exists_of_bind hy hf
  obtain ⟨rest, hg, hg'⟩ := h b e₁ hb a e₂ ha
  refine ⟨e₁ + rest, ?_, ?_⟩
  · rw [add_left_comm]
    exact hb.bind hg
  · rw [add_left_comm]
    exact hb.bind hg'

end Compile

end JsxVNode
