import ConnectClients.Proofs.Action
import ConnectClients.Proofs.Runs

/-!
# How runs end

A run ends with a value or with a failure, and leaves a state in both cases. What is said
of all its endings follows from what is said of the endings of its steps, and of what is
done about their failures.
-/

namespace ConnectClients.Runs

variable {ε σ α β : Type} {s s' : σ} {failed failed' : σ → Prop} {done done' : α → σ → Prop}

/-- What is known of the state that a run leaves, and of its value if it succeeds. -/
structure Ends (x : EStateM ε σ α) (s : σ) (failed : σ → Prop) (done : α → σ → Prop) : Prop where
  of_ok : ∀ {a s'}, x s = .ok a s' → done a s'
  of_error : ∀ {e s'}, x s = .error e s' → failed s'

theorem Ends.mono {x : EStateM ε σ α} (h : Ends x s failed done)
    (hfailed : ∀ s', failed s' → failed' s') (hdone : ∀ a s', done a s' → done' a s') :
    Ends x s failed' done' where
  of_ok hx := hdone _ _ (h.of_ok hx)
  of_error hx := hfailed _ (h.of_error hx)

/-- What is known of a success is known of it among all endings. -/
theorem Ends.and_done {x : EStateM ε σ α} (h : Ends x s failed done)
    (hdone : ∀ a s', x s = .ok a s' → done' a s') :
    Ends x s failed fun a s' => done a s' ∧ done' a s' where
  of_ok hx := ⟨h.of_ok hx, hdone _ _ hx⟩
  of_error := h.of_error

theorem ends_of_ok {x : EStateM ε σ α} {a : α} (hx : x s = .ok a s') (h : done a s') :
    Ends x s failed done where
  of_ok hrun := by
    rw [hx] at hrun
    cases hrun
    exact h
  of_error hrun := by
    rw [hx] at hrun
    cases hrun

theorem ends_of_error {x : EStateM ε σ α} {e : ε} (hx : x s = .error e s') (h : failed s') :
    Ends x s failed done where
  of_ok hrun := by
    rw [hx] at hrun
    cases hrun
  of_error hrun := by
    rw [hx] at hrun
    cases hrun
    exact h

theorem ends_pure {a : α} (h : done a s) : Ends (pure a : EStateM ε σ α) s failed done :=
  ends_of_ok rfl h

theorem ends_throw {e : ε} (h : failed s) : Ends (throw e : EStateM ε σ α) s failed done :=
  ends_of_error rfl h

theorem Ends.bind {x : EStateM ε σ α} {f : α → EStateM ε σ β} {done' : β → σ → Prop}
    (h : Ends x s failed done) (hf : ∀ a s', done a s' → Ends (f a) s' failed done') :
    Ends (x >>= f) s failed done' where
  of_ok hrun := by
    obtain ⟨a, s₁, hx, hrun⟩ := bind_eq_ok_iff.mp hrun
    exact (hf a s₁ (h.of_ok hx)).of_ok hrun
  of_error {e s'} hrun := by
    have hbind : EStateM.bind x f s = .error e s' := hrun
    rw [EStateM.bind] at hbind
    cases hx : x s with
    | ok a s₁ =>
        rw [hx] at hbind
        exact (hf a s₁ (h.of_ok hx)).of_error hbind
    | error e' s₁ =>
        rw [hx] at hbind
        cases hbind
        exact h.of_error hx

theorem ends_bind_of_ok {x : EStateM ε σ α} {f : α → EStateM ε σ β} {done : β → σ → Prop} {a : α}
    (hx : x s = .ok a s') (h : Ends (f a) s' failed done) : Ends (x >>= f) s failed done := by
  have hrun : Ends x s failed fun a' s'' => a' = a ∧ s'' = s' := ends_of_ok hx ⟨rfl, rfl⟩
  apply hrun.bind
  rintro _ _ ⟨rfl, rfl⟩
  exact h

theorem ends_throw_bind {e : ε} {f : α → EStateM ε σ β} {done : β → σ → Prop} (h : failed s) :
    Ends (throw e >>= f) s failed done :=
  ends_of_error rfl h

theorem ends_get_bind {f : σ → EStateM ε σ α} (h : Ends (f s) s failed done) :
    Ends (get >>= f) s failed done :=
  ends_bind_of_ok rfl h

theorem ends_modify_bind {f : σ → σ} {g : PUnit → EStateM ε σ α}
    (h : Ends (g ⟨⟩) (f s) failed done) : Ends (modify f >>= g) s failed done :=
  ends_bind_of_ok rfl h

theorem Ends.tryCatch {x : EStateM ε σ α} {handle : ε → EStateM ε σ α}
    (h : Ends x s failed' done) (hhandle : ∀ e s', failed' s' → Ends (handle e) s' failed done) :
    Ends (tryCatch x handle) s failed done where
  of_ok hrun := by
    rcases tryCatch_eq_ok_iff.mp hrun with hx | ⟨e, s₁, hx, hrun⟩
    · exact h.of_ok hx
    · exact (hhandle e s₁ (h.of_error hx)).of_ok hrun
  of_error {e s'} hrun := by
    have hcatch : EStateM.tryCatch x handle s = .error e s' := hrun
    rw [tryCatch_run] at hcatch
    cases hx : x s with
    | ok a s₁ =>
        rw [hx] at hcatch
        cases hcatch
    | error e' s₁ =>
        rw [hx] at hcatch
        exact (hhandle e' s₁ (h.of_error hx)).of_error hcatch

/-- A property of states that a run keeps, however it ends. -/
def Keeps (kept : σ → Prop) (x : EStateM ε σ α) : Prop :=
  ∀ s, kept s → Ends x s kept fun _ => kept

theorem keeps_filterAuxM {kept : σ → Prop} {test : α → EStateM ε σ Bool}
    (htest : ∀ a, Keeps kept (test a)) (as found : List α) :
    Keeps kept (List.filterAuxM test as found) := by
  induction as generalizing found with
  | nil => exact fun s hs => ends_pure hs
  | cons a rest ih =>
      intro s hs
      rw [List.filterAuxM]
      exact (htest a s hs).bind fun _ s' hs' => ih _ s' hs'

theorem keeps_filterM {kept : σ → Prop} {test : α → EStateM ε σ Bool}
    (htest : ∀ a, Keeps kept (test a)) (as : List α) : Keeps kept (as.filterM test) := by
  intro s hs
  rw [List.filterM]
  exact (keeps_filterAuxM htest as [] s hs).bind fun _ s' hs' => ends_pure hs'

end ConnectClients.Runs

namespace ConnectClients.Action

open Runs

variable {α β ε : Type} {w : Workspace} {failed : Workspace → Prop} {done : α → Workspace → Prop}

theorem ends_tree_bind {f : FileTree → Action α} (h : Ends (f w.tree) w failed done) :
    Ends (tree >>= f) w failed done :=
  ends_bind_of_ok rfl h

theorem ends_record_bind {r : LogRecord} {f : Unit → Action α}
    (h : Ends (f ()) { w with log := w.log ++ [r] } failed done) :
    Ends (record r >>= f) w failed done :=
  ends_bind_of_ok rfl h

theorem ends_ofExcept_bind {wrap : ε → Failure} {x : Except ε β} {f : β → Action α}
    (hf : ∀ b, x = .ok b → Ends (f b) w failed done) (hfailed : failed w) :
    Ends (ofExcept wrap x >>= f) w failed done := by
  cases x with
  | ok b => exact ends_bind_of_ok rfl (hf b rfl)
  | error e => exact ends_of_error rfl hfailed

theorem ends_operate {wrap : OsFault → Failure} {op : FileTree.Operation α}
    (h : Ends op w.tree (fun t => failed { w with tree := t })
      fun a t => done a { w with tree := t }) : Ends (operate wrap op) w failed done where
  of_ok hrun := by
    obtain ⟨t, hop, rfl⟩ := operate_eq_ok_iff.mp hrun
    exact h.of_ok hop
  of_error hrun := by
    obtain ⟨fault, t, hop, -, rfl⟩ := exists_of_operate_eq_error hrun
    exact h.of_error hop

end ConnectClients.Action
