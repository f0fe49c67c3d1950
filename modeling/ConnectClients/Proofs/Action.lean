import ConnectClients.Action
import ConnectClients.Proofs.Runs

/-!
# Actions that succeed

An operation on files changes the tree of a workspace and nothing else of it; a record
changes everything but the tree.
-/

namespace ConnectClients.Action

open Runs

variable {α ε : Type} {w w' : Workspace}

theorem tree_eq_ok_iff {t : FileTree} : tree w = .ok t w' ↔ t = w.tree ∧ w' = w := by
  rw [tree]
  simp only [bind_eq_ok_iff, get_eq_ok_iff, pure_eq_ok_iff]
  constructor
  · rintro ⟨_, _, ⟨rfl, rfl⟩, rfl, rfl⟩
    exact ⟨rfl, rfl⟩
  · rintro ⟨rfl, rfl⟩
    exact ⟨_, _, ⟨rfl, rfl⟩, rfl, rfl⟩

theorem tree_bind_eq {f : FileTree → Action α} : (tree >>= f) w = f w.tree w := rfl

theorem record_bind_eq {r : LogRecord} {f : Unit → Action α} :
    (record r >>= f) w = f () { w with log := w.log ++ [r] } := rfl

theorem record_eq_ok_iff {r : LogRecord} {u : Unit} :
    record r w = .ok u w' ↔ w' = { w with log := w.log ++ [r] } :=
  modify_eq_ok_iff

theorem operate_eq_ok_iff {wrap : OsFault → Failure} {op : FileTree.Operation α} {a : α} :
    operate wrap op w = .ok a w' ↔ ∃ t, op w.tree = .ok a t ∧ w' = { w with tree := t } := by
  rw [operate]
  cases op w.tree with
  | ok b t =>
      constructor
      · intro h
        cases h
        exact ⟨t, rfl, rfl⟩
      · rintro ⟨t', heq, rfl⟩
        cases heq
        rfl
  | error fault t =>
      constructor
      · intro h
        cases h
      · rintro ⟨t', heq, -⟩
        cases heq

theorem exists_of_operate_eq_error {wrap : OsFault → Failure} {op : FileTree.Operation α}
    {e : Failure} (h : operate wrap op w = .error e w') :
    ∃ fault t, op w.tree = .error fault t ∧ e = wrap fault ∧ w' = { w with tree := t } := by
  rw [operate] at h
  cases hop : op w.tree with
  | ok a t =>
      rw [hop] at h
      cases h
  | error fault t =>
      rw [hop] at h
      cases h
      exact ⟨fault, t, rfl, rfl, rfl⟩

theorem ofExcept_eq_ok_iff {wrap : ε → Failure} {x : Except ε α} {a : α} :
    ofExcept wrap x w = .ok a w' ↔ x = .ok a ∧ w' = w := by
  cases x with
  | ok b =>
      rw [ofExcept, pure_eq_ok_iff, Except.ok.injEq]
      exact and_congr_left fun _ => eq_comm
  | error fault => simp [ofExcept, throw_eq_ok_iff]

end ConnectClients.Action
