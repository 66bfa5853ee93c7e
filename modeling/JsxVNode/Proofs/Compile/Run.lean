import JsxVNode.Compile.Session

/-!
# Runs of compilation steps

A step of a compilation run from a session either returns a value or ends in a
fault, and leaves a session behind in both cases. The relations of this file say so
for a single run, for every run that returns, for a run that fails, and for the runs
of two steps; each has one rule for every way in which steps are put together, so
that later proofs never open the monad.
-/

namespace JsxVNode.Compile

variable {α β : Type}

/-- What a step gives when it is run from a session. -/
def outcome (x : Compile α) (s : Session) : Except Fault α × Session := x.run.run s

/-- Two steps that give the same from every session are the same. -/
theorem ext_outcome {x y : Compile α} (h : ∀ s, outcome x s = outcome y s) : x = y := funext h

@[simp] theorem outcome_pure (a : α) (s : Session) : outcome (pure a) s = (.ok a, s) := rfl

@[simp] theorem outcome_throw (fault : Fault) (s : Session) :
    outcome (throw fault : Compile α) s = (.error fault, s) := rfl

@[simp] theorem outcome_request (f : Imports → α × Imports) (s : Session) :
    outcome (request f) s = (.ok (f s.imports).1, { s with imports := (f s.imports).2 }) := rfl

/-- The second of two steps runs only if the first returns. -/
theorem outcome_bind (x : Compile α) (f : α → Compile β) (s : Session) :
    outcome (x >>= f) s =
      match outcome x s with
      | (.ok a, s') => outcome (f a) s'
      | (.error fault, s') => (.error fault, s') := by
  cases h : outcome x s with
  | mk result s' =>
    unfold outcome at h ⊢
    rw [ExceptT.run_bind, StateT.run_bind, h]
    cases result with
    | ok a => rfl
    | error fault => rfl

/-- Nothing runs after a fault. -/
@[simp] theorem throw_bind (fault : Fault) (f : α → Compile β) :
    (throw fault >>= f) = throw fault := rfl

/-- A step run from `s` returns `a` and leaves `s'` behind. -/
def Returns (x : Compile α) (s : Session) (a : α) (s' : Session) : Prop :=
  outcome x s = (.ok a, s')

/-- A step that returns has the value that it returns as its outcome. -/
theorem Returns.outcome_eq {x : Compile α} {s s' : Session} {a : α} (h : Returns x s a s') :
    outcome x s = (.ok a, s') := h

/-- After a step that returns, the next one goes on from what it leaves behind. -/
theorem Returns.outcome_bind {x : Compile α} {s s' : Session} {a : α} (h : Returns x s a s')
    (f : α → Compile β) : outcome (x >>= f) s = outcome (f a) s' := by
  rw [Compile.outcome_bind, h.outcome_eq]

/-- A fault is passed on. -/
theorem outcome_bind_of_error {x : Compile α} {s s' : Session} {fault : Fault}
    (h : outcome x s = (.error fault, s')) (f : α → Compile β) :
    outcome (x >>= f) s = (.error fault, s') := by
  rw [Compile.outcome_bind, h]

/-- A step run from `s` ends in a fault. -/
def Fails (x : Compile α) (s : Session) : Prop := ∃ fault s', outcome x s = (.error fault, s')

/-- Every value that a step returns, from whatever session, satisfies a condition. -/
def Yields (x : Compile α) (Q : α → Prop) : Prop := ∀ s a s', Returns x s a s' → Q a

/-- A step without effects returns its value and leaves the session alone. -/
@[simp] theorem returns_pure_iff {a b : α} {s s' : Session} :
    Returns (pure a) s b s' ↔ a = b ∧ s = s' := by
  simp only [Returns, outcome_pure, Prod.mk.injEq, Except.ok.injEq]

/-- A step that stops with a fault returns nothing. -/
@[simp] theorem not_returns_throw {fault : Fault} {a : α} {s s' : Session} :
    ¬ Returns (throw fault) s a s' := by
  simp only [Returns, outcome_throw, Prod.mk.injEq, reduceCtorEq, false_and, not_false_eq_true]

/-- A request returns what the imports answer, and only the imports change. -/
@[simp] theorem returns_request_iff {f : Imports → α × Imports} {a : α} {s s' : Session} :
    Returns (request f) s a s' ↔
      (f s.imports).1 = a ∧ { s with imports := (f s.imports).2 } = s' := by
  simp only [Returns, outcome_request, Prod.mk.injEq, Except.ok.injEq]

/-- Two steps return what the second one returns after the first one has returned. -/
theorem returns_bind_iff {x : Compile α} {f : α → Compile β} {b : β} {s s'' : Session} :
    Returns (x >>= f) s b s'' ↔ ∃ a s', Returns x s a s' ∧ Returns (f a) s' b s'' := by
  unfold Returns
  rw [outcome_bind]
  cases h : outcome x s with
  | mk result s' =>
    cases result with
    | ok a =>
      constructor
      · intro hf
        exact ⟨a, s', rfl, hf⟩
      · rintro ⟨_, _, he, hf⟩
        cases he
        exact hf
    | error fault => simp

/-- A result that is passed on returns the value in it, and leaves the session alone. -/
@[simp] theorem returns_ofExcept_iff {e : Except Fault α} {a : α} {s s' : Session} :
    Returns (ofExcept e) s a s' ↔ e = .ok a ∧ s = s' := by
  cases e with
  | ok b => simp [ofExcept]
  | error fault => simp [ofExcept]

@[simp] theorem not_fails_pure {a : α} {s : Session} : ¬ Fails (pure a) s := by
  simp [Fails]

@[simp] theorem fails_throw {fault : Fault} {s : Session} :
    Fails (throw fault : Compile α) s :=
  ⟨fault, s, rfl⟩

@[simp] theorem not_fails_request {f : Imports → α × Imports} {s : Session} :
    ¬ Fails (request f) s := by
  simp [Fails]

@[simp] theorem not_fails_comment {position : Nat} {text : String} {s : Session} :
    ¬ Fails (comment position text) s := by
  rintro ⟨fault, s', h⟩
  cases h

/-- Two steps fail if the first one does, or else if the second one does where the first one
returned. -/
theorem fails_bind_iff {x : Compile α} {f : α → Compile β} {s : Session} :
    Fails (x >>= f) s ↔ Fails x s ∨ ∃ a s', Returns x s a s' ∧ Fails (f a) s' := by
  unfold Fails Returns
  rw [outcome_bind]
  cases h : outcome x s with
  | mk result s' =>
    cases result with
    | ok a =>
      constructor
      · intro hf
        exact Or.inr ⟨a, s', rfl, hf⟩
      · rintro (⟨_, _, he⟩ | ⟨_, _, he, hf⟩)
        · cases he
        · cases he
          exact hf
    | error fault => simp

/-- Two steps do not fail if neither does, whatever the first returns. -/
theorem not_fails_bind {x : Compile α} {f : α → Compile β} {s : Session} (hx : ¬ Fails x s)
    (hf : ∀ a s', ¬ Fails (f a) s') : ¬ Fails (x >>= f) s := by
  rw [fails_bind_iff]
  rintro (h | ⟨a, s', _, h⟩)
  · exact hx h
  · exact hf a s' h

/-- A result that is passed on fails if and only if it is a fault. -/
@[simp] theorem fails_ofExcept_iff {e : Except Fault α} {s : Session} :
    Fails (ofExcept e) s ↔ ∃ fault, e = .error fault := by
  cases e <;> simp [ofExcept]

/-- A run that returns does not fail. -/
theorem not_fails_of_returns {x : Compile α} {s s' : Session} {a : α} (h : Returns x s a s') :
    ¬ Fails x s := by
  rintro ⟨fault, t, hf⟩
  rw [h.outcome_eq] at hf
  cases hf

/-- A run that does not fail returns. -/
theorem exists_returns_of_not_fails {x : Compile α} {s : Session} (h : ¬ Fails x s) :
    ∃ a s', Returns x s a s' := by
  unfold Fails at h
  unfold Returns
  cases hx : outcome x s with
  | mk result s' =>
    cases result with
    | ok a => exact ⟨a, s', rfl⟩
    | error fault => exact absurd ⟨fault, s', hx⟩ h

/-- If the second of two steps fails or not whatever the first returns, so do both together
unless the first fails. -/
theorem fails_bind_iff_of_yields {x : Compile α} {f : α → Compile β} {P : Prop}
    (h : ∀ s a s', Returns x s a s' → (Fails (f a) s' ↔ P)) {s : Session} :
    Fails (x >>= f) s ↔ Fails x s ∨ P := by
  rw [fails_bind_iff]
  by_cases hx : Fails x s
  · simp only [hx, true_or]
  · obtain ⟨a, s', hr⟩ := exists_returns_of_not_fails hx
    have ha := h s a s' hr
    constructor
    · rintro (hf | ⟨b, t, hb, hf⟩)
      · exact Or.inl hf
      · exact Or.inr ((h s b t hb).mp hf)
    · rintro (hf | hp)
      · exact Or.inl hf
      · exact Or.inr ⟨a, s', hr, ha.mpr hp⟩

/-- A step without effects yields its value alone. -/
theorem yields_pure {a : α} {Q : α → Prop} (h : Q a) : Yields (pure a) Q := by
  intro s b s' hr
  obtain ⟨rfl, _⟩ := returns_pure_iff.mp hr
  exact h

/-- A step that stops with a fault yields everything, since it returns nothing. -/
theorem yields_throw {fault : Fault} {Q : α → Prop} : Yields (throw fault) Q :=
  fun _ _ _ hr => absurd hr not_returns_throw

/-- A result that is passed on yields what is known of the value in it. -/
theorem yields_ofExcept {e : Except Fault α} {Q : α → Prop} (h : ∀ a, e = .ok a → Q a) :
    Yields (ofExcept e) Q :=
  fun _ a _ hr => h a (returns_ofExcept_iff.mp hr).1

/-- What the second of two steps yields may rely on what the first one yields. -/
theorem Yields.bind {x : Compile α} {f : α → Compile β} {P : α → Prop} {Q : β → Prop}
    (hx : Yields x P) (hf : ∀ a, P a → Yields (f a) Q) : Yields (x >>= f) Q := by
  intro s b s'' hr
  obtain ⟨a, s', ha, hb⟩ := returns_bind_iff.mp hr
  exact hf a (hx s a s' ha) s' b s'' hb

/-- What comes after a step whose value does not matter. -/
theorem yields_bind_of_forall {x : Compile α} {f : α → Compile β} {Q : β → Prop}
    (hf : ∀ a, Yields (f a) Q) : Yields (x >>= f) Q :=
  Yields.bind (P := fun _ => True) (fun _ _ _ _ => trivial) (fun a _ => hf a)

/-- Two steps return the same from every session and leave the same session behind. Their faults may
be different. -/
def Coincide (x y : Compile α) : Prop := ∀ s a s', Returns x s a s' ↔ Returns y s a s'

theorem Coincide.refl (x : Compile α) : Coincide x x := fun _ _ _ => Iff.rfl

/-- Two steps coincide with two others if the first ones do, and the second ones where those
return. -/
theorem Coincide.bind {x y : Compile α} {f g : α → Compile β} (hx : Coincide x y)
    (hf : ∀ s a s', Returns x s a s' → Coincide (f a) (g a)) : Coincide (x >>= f) (y >>= g) := by
  intro s b s''
  rw [returns_bind_iff, returns_bind_iff]
  constructor
  · rintro ⟨a, s', ha, hb⟩
    exact ⟨a, s', (hx s a s').mp ha, (hf s a s' ha s' b s'').mp hb⟩
  · rintro ⟨a, s', ha, hb⟩
    have ha' := (hx s a s').mpr ha
    exact ⟨a, s', ha', (hf s a s' ha' s' b s'').mpr hb⟩

/-- Of two steps that return the same, both fail or none. -/
theorem Coincide.fails_iff {x y : Compile α} (h : Coincide x y) (s : Session) :
    Fails x s ↔ Fails y s := by
  have hfails {x y : Compile α} (h : Coincide x y) (hx : Fails x s) : Fails y s := by
    refine Classical.byContradiction fun hy => ?_
    obtain ⟨a, s', hr⟩ := exists_returns_of_not_fails hy
    exact not_fails_of_returns ((h s a s').mpr hr) hx
  exact ⟨hfails h, hfails fun s a s' => (h s a s').symm⟩

end JsxVNode.Compile
