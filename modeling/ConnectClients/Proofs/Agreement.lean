import ConnectClients.Proofs.Action

/-!
# Runs that end alike

Two runs of one program end alike if both succeed with one value, or both fail in one
way. As long as their states are related so that every step ends alike from them, the
whole runs do.
-/

namespace ConnectClients.Runs

variable {ε σ α β : Type} {s s' : σ} {failed failed' : σ → σ → Prop}
  {done done' : α → σ → σ → Prop} {related : σ → σ → Prop}

/-- Results with one value, or with one failure, and states that are related. -/
inductive Agree (failed : σ → σ → Prop) (done : α → σ → σ → Prop) :
    EStateM.Result ε σ α → EStateM.Result ε σ α → Prop
  | ok {a : α} {s s' : σ} (h : done a s s') : Agree failed done (.ok a s) (.ok a s')
  | error {e : ε} {s s' : σ} (h : failed s s') : Agree failed done (.error e s) (.error e s')

theorem Agree.mono {r r' : EStateM.Result ε σ α} (h : Agree failed done r r')
    (hfailed : ∀ s s', failed s s' → failed' s s') (hdone : ∀ a s s', done a s s' → done' a s s') :
    Agree failed' done' r r' := by
  cases h with
  | ok h => exact .ok (hdone _ _ _ h)
  | error h => exact .error (hfailed _ _ h)

/-- What is known of a success of the first run is known of both successes. -/
theorem Agree.and_of_ok {x : EStateM ε σ α} {r : EStateM.Result ε σ α} {known : α → σ → Prop}
    (h : Agree failed done (x s) r) (hknown : ∀ a s₁, x s = .ok a s₁ → known a s₁) :
    Agree failed (fun a s₁ s₁' => done a s₁ s₁' ∧ known a s₁) (x s) r := by
  generalize hx : x s = r' at h
  cases h with
  | ok h => exact .ok ⟨h, hknown _ _ hx⟩
  | error h => exact .error h

theorem agree_pure {a : α} (h : done a s s') :
    Agree failed done ((pure a : EStateM ε σ α) s) ((pure a : EStateM ε σ α) s') :=
  .ok h

theorem agree_pure_of_eq {a b : α} (heq : b = a) (h : done a s s') :
    Agree failed done ((pure a : EStateM ε σ α) s) ((pure b : EStateM ε σ α) s') := by
  subst heq
  exact .ok h

theorem agree_throw {e : ε} (h : failed s s') :
    Agree failed done ((throw e : EStateM ε σ α) s) ((throw e : EStateM ε σ α) s') :=
  .error h

theorem Agree.exists_ok {r r' : EStateM.Result ε σ α} (h : Agree failed done r r') {a : α}
    (hr : r = .ok a s) : ∃ s', r' = .ok a s' ∧ done a s s' := by
  cases h with
  | ok h =>
      cases hr
      exact ⟨_, rfl, h⟩
  | error h => cases hr

theorem Agree.bind {x x' : EStateM ε σ α} {f f' : α → EStateM ε σ β} {done' : β → σ → σ → Prop}
    (h : Agree failed done (x s) (x' s'))
    (hf : ∀ a s s', done a s s' → Agree failed done' (f a s) (f' a s')) :
    Agree failed done' ((x >>= f) s) ((x' >>= f') s') := by
  generalize hx : x s = r at h
  generalize hx' : x' s' = r' at h
  cases h with
  | ok h =>
      rw [bind_eq_of_ok hx, bind_eq_of_ok hx']
      exact hf _ _ _ h
  | error h =>
      rw [bind_eq_of_error hx, bind_eq_of_error hx']
      exact .error h

theorem agree_get_bind {f : σ → EStateM ε σ α} (h : Agree failed done (f s s) (f s' s')) :
    Agree failed done ((get >>= f) s) ((get >>= f) s') := h

theorem Agree.tryCatch {x : EStateM ε σ α} {handle : ε → EStateM ε σ α}
    (h : Agree failed' done (x s) (x s'))
    (hhandle : ∀ e s s', failed' s s' → Agree failed done (handle e s) (handle e s')) :
    Agree failed done ((tryCatch x handle) s) ((tryCatch x handle) s') := by
  generalize hx : x s = r at h
  generalize hx' : x s' = r' at h
  cases h with
  | ok h =>
      rw [tryCatch_eq_of_ok hx, tryCatch_eq_of_ok hx']
      exact .ok h
  | error h =>
      rw [tryCatch_eq_of_error hx, tryCatch_eq_of_error hx']
      exact hhandle _ _ _ h

/-- A run that ends alike from related states, and leaves states that are related again. -/
def Agrees (related : σ → σ → Prop) (x : EStateM ε σ α) : Prop :=
  ∀ s s', related s s' → Agree related (fun _ => related) (x s) (x s')

theorem Agrees.agree {x : EStateM ε σ α} (hx : Agrees related x) (h : related s s')
    (hfailed : ∀ s s', related s s' → failed s s') :
    Agree failed (fun _ => related) (x s) (x s') :=
  (hx s s' h).mono hfailed fun _ _ _ h => h

theorem agrees_pure (a : α) : Agrees related (pure a : EStateM ε σ α) := fun _ _ h => .ok h

theorem agrees_throw (e : ε) : Agrees related (throw e : EStateM ε σ α) := fun _ _ h => .error h

theorem agrees_modify {f : σ → σ} (hf : ∀ s s', related s s' → related (f s) (f s')) :
    Agrees related (modify f : EStateM ε σ PUnit) := fun s s' h => .ok (hf s s' h)

theorem Agrees.bind {x : EStateM ε σ α} {f : α → EStateM ε σ β} (hx : Agrees related x)
    (hf : ∀ a, Agrees related (f a)) : Agrees related (x >>= f) :=
  fun s s' h => (hx s s' h).bind hf

theorem Agrees.tryCatch {x : EStateM ε σ α} {handle : ε → EStateM ε σ α}
    (hx : Agrees related x) (hhandle : ∀ e, Agrees related (handle e)) :
    Agrees related (tryCatch x handle) :=
  fun s s' h => (hx s s' h).tryCatch hhandle

/-- Two runs over a list end alike if each step does. -/
theorem agree_filterAuxM {test test' : α → EStateM ε σ Bool} {as : List α}
    (htest : ∀ a ∈ as, ∀ s s', related s s' →
      Agree related (fun _ => related) (test a s) (test' a s')) (found : List α)
    (h : related s s') : Agree related (fun _ => related) (List.filterAuxM test as found s)
      (List.filterAuxM test' as found s') := by
  induction as generalizing found s s' with
  | nil => exact agree_pure h
  | cons a rest ih =>
      rw [List.filterAuxM, List.filterAuxM]
      apply (htest a List.mem_cons_self s s' h).bind
      intro b s₁ s₁' h₁
      exact ih (fun a' ha' => htest a' (List.mem_cons_of_mem a ha')) _ h₁

theorem agree_filterM {test test' : α → EStateM ε σ Bool} {as : List α}
    (htest : ∀ a ∈ as, ∀ s s', related s s' →
      Agree related (fun _ => related) (test a s) (test' a s'))
    (h : related s s') : Agree related (fun _ => related) (as.filterM test s)
      (as.filterM test' s') := by
  rw [List.filterM, List.filterM]
  exact (agree_filterAuxM htest [] h).bind fun _ _ _ h₁ => agree_pure h₁

end ConnectClients.Runs

namespace ConnectClients

open Runs

/-- Workspaces with related trees and the same log and calls. -/
structure Workspace.Alike (related : FileTree → FileTree → Prop) (w w' : Workspace) : Prop where
  tree : related w.tree w'.tree
  log : w'.log = w.log
  calls : w'.calls = w.calls

theorem Workspace.Alike.mono {related related' : FileTree → FileTree → Prop} {w w' : Workspace}
    (h : w.Alike related w') (htree : ∀ t t', related t t' → related' t t') :
    w.Alike related' w' :=
  ⟨htree _ _ h.tree, h.log, h.calls⟩

namespace Action

variable {α β ε : Type} {w w' : Workspace} {related related' : FileTree → FileTree → Prop}
  {failed : Workspace → Workspace → Prop} {done : α → Workspace → Workspace → Prop}

theorem agree_tree_bind {f : FileTree → Action α}
    (h : Agree failed done (f w.tree w) (f w'.tree w')) :
    Agree failed done ((tree >>= f) w) ((tree >>= f) w') := h

/-- What is read of related trees is the same, and so are the runs from there on. -/
theorem agrees_tree_bind {f : FileTree → Action α} (hsame : ∀ t t', related t t' → f t' = f t)
    (hf : ∀ t t', related t t' → Agrees (Workspace.Alike related) (f t)) :
    Agrees (Workspace.Alike related) (tree >>= f) := by
  intro w w' h
  apply agree_tree_bind
  rw [hsame w.tree w'.tree h.tree]
  exact hf w.tree w'.tree h.tree w w' h

theorem agrees_record (r : LogRecord) : Agrees (Workspace.Alike related) (record r) :=
  fun _ _ h => .ok ⟨h.tree, congrArg (· ++ [r]) h.log, h.calls⟩

theorem agrees_ofExcept (wrap : ε → Failure) (x : Except ε α) :
    Agrees (Workspace.Alike related) (ofExcept wrap x) := by
  cases x with
  | ok a => exact agrees_pure a
  | error fault => exact agrees_throw _

theorem agree_operate {wrap : OsFault → Failure} {op : FileTree.Operation α}
    {done : α → FileTree → FileTree → Prop} (h : w.Alike related' w')
    (hop : Agree related done (op w.tree) (op w'.tree)) :
    Agree (Workspace.Alike related) (fun a => Workspace.Alike (done a)) (operate wrap op w)
      (operate wrap op w') := by
  rw [operate, operate]
  generalize op w.tree = r at hop
  generalize op w'.tree = r' at hop
  cases hop with
  | ok hdone => exact .ok ⟨hdone, h.log, h.calls⟩
  | error hfailed => exact .error ⟨hfailed, h.log, h.calls⟩

theorem agrees_operate {wrap : OsFault → Failure} {op : FileTree.Operation α}
    (hop : Agrees related op) : Agrees (Workspace.Alike related) (operate wrap op) :=
  fun _ _ h => agree_operate h (hop _ _ h.tree)

end Action

end ConnectClients
