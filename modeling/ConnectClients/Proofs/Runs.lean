/-!
# Runs that succeed

A run that succeeds has succeeded step by step. One that may be caught has succeeded
itself, or else what was done about its failure has.
-/

namespace ConnectClients.Runs

variable {ε σ α β : Type} {s s' : σ}

theorem get_run : (EStateM.get : EStateM ε σ σ) s = .ok s s := rfl

/-- What is done about a failure starts from the state that it left. -/
theorem tryCatch_run {x : EStateM ε σ α} {handle : ε → EStateM ε σ α} :
    EStateM.tryCatch x handle s =
      match x s with
      | .ok a s' => .ok a s'
      | .error e s' => handle e s' := by
  unfold EStateM.tryCatch
  cases x s <;> rfl

theorem bind_eq_ok_iff {x : EStateM ε σ α} {f : α → EStateM ε σ β} {b : β} :
    (x >>= f) s = .ok b s' ↔ ∃ a s₁, x s = .ok a s₁ ∧ f a s₁ = .ok b s' := by
  show EStateM.bind x f s = _ ↔ _
  rw [EStateM.bind]
  cases x s with
  | ok a s₁ =>
      constructor
      · intro h
        exact ⟨a, s₁, rfl, h⟩
      · rintro ⟨a', s₂, heq, h⟩
        cases heq
        exact h
  | error e s₁ =>
      constructor
      · intro h
        cases h
      · rintro ⟨a', s₂, heq, -⟩
        cases heq

theorem pure_eq_ok_iff {a b : α} :
    (pure a : EStateM ε σ α) s = .ok b s' ↔ b = a ∧ s' = s := by
  constructor
  · intro h
    cases h
    exact ⟨rfl, rfl⟩
  · rintro ⟨rfl, rfl⟩
    rfl

theorem get_eq_ok_iff {a : σ} : (get : EStateM ε σ σ) s = .ok a s' ↔ a = s ∧ s' = s := by
  constructor
  · intro h
    cases h
    exact ⟨rfl, rfl⟩
  · rintro ⟨rfl, rfl⟩
    rfl

theorem modify_eq_ok_iff {f : σ → σ} {u : PUnit} :
    (modify f : EStateM ε σ PUnit) s = .ok u s' ↔ s' = f s := by
  constructor
  · intro h
    cases h
    rfl
  · rintro rfl
    rfl

theorem throw_eq_ok_iff {e : ε} {a : α} :
    (throw e : EStateM ε σ α) s = .ok a s' ↔ False := by
  constructor
  · intro h
    cases h
  · exact False.elim

theorem tryCatch_eq_ok_iff {x : EStateM ε σ α} {handle : ε → EStateM ε σ α} {a : α} :
    (tryCatch x handle) s = .ok a s' ↔
      x s = .ok a s' ∨ ∃ e s₁, x s = .error e s₁ ∧ handle e s₁ = .ok a s' := by
  show EStateM.tryCatch x handle s = _ ↔ _
  rw [tryCatch_run]
  cases x s with
  | ok b s₁ =>
      constructor
      · exact Or.inl
      · rintro (h | ⟨e, s₂, heq, -⟩)
        · exact h
        · cases heq
  | error e s₁ =>
      constructor
      · intro h
        exact Or.inr ⟨e, s₁, rfl, h⟩
      · rintro (h | ⟨e', s₂, heq, h⟩)
        · cases h
        · cases heq
          exact h

/-! ## Steps whose results are known -/

theorem bind_eq_of_ok {x : EStateM ε σ α} {f : α → EStateM ε σ β} {a : α} (h : x s = .ok a s') :
    (x >>= f) s = f a s' := by
  show EStateM.bind x f s = _
  rw [EStateM.bind, h]

theorem bind_eq_of_error {x : EStateM ε σ α} {f : α → EStateM ε σ β} {e : ε}
    (h : x s = .error e s') : (x >>= f) s = .error e s' := by
  show EStateM.bind x f s = _
  rw [EStateM.bind, h]

/-- A run that fails has failed in its first step, or behind it. -/
theorem bind_eq_error_iff {x : EStateM ε σ α} {f : α → EStateM ε σ β} {e : ε} :
    (x >>= f) s = .error e s' ↔
      x s = .error e s' ∨ ∃ a s₁, x s = .ok a s₁ ∧ f a s₁ = .error e s' := by
  cases hx : x s with
  | ok a s₁ =>
      rw [bind_eq_of_ok hx]
      constructor
      · exact fun h => Or.inr ⟨a, s₁, rfl, h⟩
      · rintro (h | ⟨_, _, h, hf⟩)
        · cases h
        · cases h
          exact hf
  | error e' s₁ =>
      rw [bind_eq_of_error hx]
      constructor
      · exact fun h => Or.inl (by cases h; rfl)
      · rintro (h | ⟨_, _, h, -⟩)
        · cases h
          rfl
        · cases h

theorem get_bind_eq {f : σ → EStateM ε σ α} : (get >>= f) s = f s s := rfl

theorem modify_bind_eq {f : σ → σ} {g : PUnit → EStateM ε σ α} :
    (modify f >>= g) s = g ⟨⟩ (f s) := rfl

theorem tryCatch_eq_of_ok {x : EStateM ε σ α} {handle : ε → EStateM ε σ α} {a : α}
    (h : x s = .ok a s') : (tryCatch x handle) s = .ok a s' := by
  show EStateM.tryCatch x handle s = _
  rw [tryCatch_run, h]

theorem tryCatch_eq_of_error {x : EStateM ε σ α} {handle : ε → EStateM ε σ α} {e : ε}
    (h : x s = .error e s') : (tryCatch x handle) s = handle e s' := by
  show EStateM.tryCatch x handle s = _
  rw [tryCatch_run, h]

/-! ## Tests -/

/-- Whether a result is one of success that meets a test. -/
def Meets (test : α → σ → Bool) : EStateM.Result ε σ α → Bool
  | .ok a s => test a s
  | .error _ _ => false

theorem exists_ok_of_meets (test : α → σ → Bool) (x : EStateM ε σ α) (s : σ)
    (h : Meets test (x s) = true) : ∃ a s', x s = .ok a s' ∧ test a s' = true := by
  cases hx : x s with
  | ok a s' =>
      rw [hx] at h
      exact ⟨a, s', rfl, h⟩
  | error e s' =>
      rw [hx] at h
      exact absurd h Bool.false_ne_true

/-- Whether a result is a failure that meets a test. -/
def MeetsFailure (test : ε → σ → Bool) : EStateM.Result ε σ α → Bool
  | .ok _ _ => false
  | .error e s => test e s

theorem exists_error_of_meets (test : ε → σ → Bool) (x : EStateM ε σ α) (s : σ)
    (h : MeetsFailure test (x s) = true) : ∃ e s', x s = .error e s' ∧ test e s' = true := by
  cases hx : x s with
  | ok a s' =>
      rw [hx] at h
      exact absurd h Bool.false_ne_true
  | error e s' =>
      rw [hx] at h
      exact ⟨e, s', rfl, h⟩

end ConnectClients.Runs
