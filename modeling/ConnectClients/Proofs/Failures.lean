import ConnectClients.Proofs.Endings
import ConnectClients.Generation

/-!
# What runs fail by

A run that fails has failed in one of its steps. Most steps fail by a fault of their own, such as a
file that cannot be written; only a step that reads a document can fail by a scalar of it.
-/

namespace ConnectClients.Runs

variable {ε σ α β : Type} {s : σ} {P Q : ε → Prop}

/-- What is known of the failure that a run ends with, if it ends with one. -/
structure Fails (x : EStateM ε σ α) (s : σ) (P : ε → Prop) : Prop where
  of_error : ∀ {e s'}, x s = .error e s' → P e

theorem fails_of_ok {x : EStateM ε σ α} {a : α} {s' : σ} (h : x s = .ok a s') : Fails x s P where
  of_error hrun := by
    rw [h] at hrun
    cases hrun

theorem fails_pure {a : α} : Fails (pure a : EStateM ε σ α) s P := fails_of_ok rfl

theorem fails_throw {e : ε} (h : P e) : Fails (throw e : EStateM ε σ α) s P where
  of_error hrun := by
    cases hrun
    exact h

theorem Fails.bind {x : EStateM ε σ α} {f : α → EStateM ε σ β} (h : Fails x s P)
    (hf : ∀ a s₁, x s = .ok a s₁ → Fails (f a) s₁ P) : Fails (x >>= f) s P where
  of_error hrun := by
    cases hx : x s with
    | ok a s₁ =>
        rw [bind_eq_of_ok hx] at hrun
        exact (hf a s₁ hx).of_error hrun
    | error e s₁ =>
        rw [bind_eq_of_error hx] at hrun
        cases hrun
        exact h.of_error hx

theorem fails_bind_of_ok {x : EStateM ε σ α} {f : α → EStateM ε σ β} {a : α} {s' : σ}
    (hx : x s = .ok a s') (h : Fails (f a) s' P) : Fails (x >>= f) s P where
  of_error hrun := by
    rw [bind_eq_of_ok hx] at hrun
    exact h.of_error hrun

theorem fails_modify_bind {f : σ → σ} {g : PUnit → EStateM ε σ α} (h : Fails (g ⟨⟩) (f s) P) :
    Fails (modify f >>= g) s P :=
  fails_bind_of_ok rfl h

theorem Fails.tryCatch {x : EStateM ε σ α} {handle : ε → EStateM ε σ α}
    (h : ∀ e s₁, x s = .error e s₁ → Fails (handle e) s₁ P) : Fails (tryCatch x handle) s P where
  of_error hrun := by
    cases hx : x s with
    | ok a s₁ =>
        rw [tryCatch_eq_of_ok hx] at hrun
        cases hrun
    | error e s₁ =>
        rw [tryCatch_eq_of_error hx] at hrun
        exact (h e s₁ hx).of_error hrun

theorem fails_filterAuxM {test : α → EStateM ε σ Bool} (htest : ∀ a s, Fails (test a) s P)
    (as found : List α) (s : σ) : Fails (List.filterAuxM test as found) s P := by
  induction as generalizing found s with
  | nil => exact fails_pure
  | cons a rest ih =>
      rw [List.filterAuxM]
      exact (htest a s).bind fun _ s₁ _ => ih _ s₁

theorem fails_filterM {test : α → EStateM ε σ Bool} (htest : ∀ a s, Fails (test a) s P)
    (as : List α) (s : σ) : Fails (as.filterM test) s P := by
  rw [List.filterM]
  exact (fails_filterAuxM htest as [] s).bind fun _ _ _ => fails_pure

end ConnectClients.Runs

namespace ConnectClients

open Runs

/-- A failure by a scalar's fault is by one with a property. -/
def Failure.ScalarMeets (P : Yaml.ScalarFault → Prop) (e : Failure) : Prop :=
  ∀ fault, e = .scalar fault → P fault

variable {P : Yaml.ScalarFault → Prop} {Q : Failure → Prop}

theorem Failure.scalarMeets_write (fault : WriteFault) :
    Failure.ScalarMeets P (.write fault) := nofun

namespace Action

variable {α β ε : Type} {w : Workspace}

theorem fails_tree_bind {f : FileTree → Action α} (h : Fails (f w.tree) w Q) :
    Fails (tree >>= f) w Q :=
  fails_bind_of_ok rfl h

theorem fails_record_bind {r : LogRecord} {f : Unit → Action α}
    (h : Fails (f ()) { w with log := w.log ++ [r] } Q) : Fails (record r >>= f) w Q :=
  fails_bind_of_ok rfl h

theorem fails_operate {wrap : OsFault → Failure} (hwrap : ∀ f, Q (wrap f))
    (op : FileTree.Operation α) : Fails (operate wrap op) w Q where
  of_error hrun := by
    obtain ⟨fault, -, -, rfl, -⟩ := exists_of_operate_eq_error hrun
    exact hwrap fault

theorem fails_ofExcept {wrap : ε → Failure} {x : Except ε α}
    (h : ∀ f, x = .error f → Q (wrap f)) : Fails (ofExcept wrap x) w Q := by
  cases x with
  | ok a => exact fails_pure
  | error f => exact fails_throw (h f rfl)

end Action

/-! ## Output -/

namespace Output

variable (here : Location) (dir : Path) (name text : String) (w : Workspace)
  (hwrite : ∀ fault, Q (.write fault))

include hwrite

theorem reset_fails : Fails (reset here dir) w Q := Action.fails_operate (fun _ => hwrite _) _

theorem makeDirectories_fails : Fails (makeDirectories here dir) w Q :=
  Action.fails_operate (fun _ => hwrite _) _

theorem writeFile_fails : Fails (writeFile here dir text) w Q :=
  Action.fails_operate (fun _ => hwrite _) _

theorem writeText_fails : Fails (writeText here dir text) w Q := by
  rw [writeText]
  exact (makeDirectories_fails here _ w hwrite).bind fun _ w₁ _ =>
    writeFile_fails here dir text w₁ hwrite

theorem writeInto_fails : Fails (writeInto here dir name text) w Q := by
  rw [writeInto]
  exact (writeFile_fails here _ text w hwrite).bind fun _ _ _ => fails_pure

theorem writeTypesIndex_fails : Fails (writeTypesIndex here dir text) w Q := by
  rw [writeTypesIndex]
  exact (makeDirectories_fails here dir w hwrite).bind fun _ w₁ _ =>
    writeInto_fails here dir _ text w₁ hwrite

theorem writeTransport_fails : Fails (writeTransport here dir text) w Q := by
  rw [writeTransport]
  apply Action.fails_tree_bind
  split
  · exact fails_pure
  · exact (makeDirectories_fails here dir w hwrite).bind fun _ w₁ _ =>
      writeInto_fails here dir _ text w₁ hwrite

end Output

/-! ## Generation -/

namespace Generation

variable {here : Location}

theorem renameIn_fails (dir : Path) (names : List (String × String)) (m : List String)
    (w : Workspace) : Fails (renameIn here dir names m) w (Failure.ScalarMeets P) := by
  rw [renameIn]
  apply Action.fails_tree_bind
  cases w.tree.readText here (dir.below m) with
  | error fault => exact fails_pure
  | ok content =>
      refine (Action.fails_ofExcept fun _ _ _ h => nomatch h).bind ?_
      rintro ⟨renamed, modified⟩ w₂ -
      cases modified with
      | false => exact fails_pure
      | true =>
          refine (Output.writeText_fails here _ renamed w₂ Failure.scalarMeets_write).bind ?_
          exact fun _ _ _ => fails_pure

theorem renameAll_fails (dir : Path) (names : List (String × String)) (ms : List (List String))
    (w : Workspace) : Fails (renameAll here dir names ms) w (Failure.ScalarMeets P) := by
  induction ms generalizing w with
  | nil => exact fails_pure
  | cons m rest ih =>
      rw [renameAll]
      refine (renameIn_fails dir names m w).bind fun _ w₁ _ => ?_
      exact (ih w₁).bind fun _ _ _ => fails_pure

theorem renames_fails (r : Request) (schemaDir : Option Path) (w : Workspace) :
    Fails (renames here r schemaDir) w (Failure.ScalarMeets P) := by
  cases schemaDir with
  | none => exact fails_pure
  | some schemaDir =>
      rw [renames, applyJsonNames]
      have hnames : ∃ found, declaredNames here schemaDir w = .ok found w := ⟨_, rfl⟩
      obtain ⟨⟨names, warnings⟩, hnames⟩ := hnames
      apply fails_bind_of_ok hnames
      simp only
      split
      · exact fails_pure
      · apply Action.fails_tree_bind
        exact (renameAll_fails _ names _ w).bind fun _ _ _ => fails_pure

theorem serviceFiles_fails (dir : Path) (w : Workspace) :
    Fails (Discovery.serviceFiles here dir) w (Failure.ScalarMeets P) := by
  rw [Discovery.serviceFiles]
  apply Action.fails_tree_bind
  refine fails_filterM (fun m w₁ => ?_) _ w
  cases w.tree.readText here (dir.below m) with
  | ok content => exact fails_pure
  | error fault => exact Action.fails_record_bind fails_pure

theorem collectServices_fails (dir : Path) (w : Workspace) :
    Fails (collectServices here dir) w (Failure.ScalarMeets P) := by
  rw [collectServices]
  refine (serviceFiles_fails dir w).bind fun files w₁ _ => ?_
  exact Action.fails_tree_bind fails_pure

theorem writeClients_fails (r : Request) (services : List Service) (written : List ClientEntry)
    (warnings : List String) (w : Workspace) :
    Fails (writeClients here r services written warnings) w (Failure.ScalarMeets P) := by
  induction services generalizing written warnings w with
  | nil => exact fails_pure
  | cons s rest ih =>
      rw [writeClients]
      refine (Action.fails_ofExcept fun _ _ _ h => nomatch h).bind fun passes w₁ _ => ?_
      split
      · exact Action.fails_record_bind (ih written warnings _)
      · simp only
        split
        · exact ih written _ w₁
        · refine (Output.writeInto_fails here _ _ _ w₁ Failure.scalarMeets_write).bind ?_
          exact fun _ w₂ _ => ih _ warnings w₂

/-- Generating from modules never fails by a scalar. -/
theorem fromModules_fails (r : Request) (schemaDir : Option Path) (w : Workspace) :
    Fails (fromModules here r schemaDir) w (Failure.ScalarMeets P) := by
  rw [fromModules]
  simp only
  refine (renames_fails r schemaDir w).bind fun _ w₁ _ => ?_
  refine (collectServices_fails _ w₁).bind fun _ w₂ _ => ?_
  refine (Output.reset_fails here _ w₂ Failure.scalarMeets_write).bind fun _ w₃ _ => ?_
  refine (Output.reset_fails here _ w₃ Failure.scalarMeets_write).bind fun _ w₄ _ => ?_
  refine (writeClients_fails r _ _ _ w₄).bind fun _ w₅ _ => ?_
  refine (Output.writeInto_fails here _ _ _ w₅ Failure.scalarMeets_write).bind fun _ w₆ _ => ?_
  apply Action.fails_tree_bind
  refine (Output.writeTypesIndex_fails here _ _ w₆ Failure.scalarMeets_write).bind fun _ w₇ _ => ?_
  refine (Output.writeTransport_fails here _ _ w₇ Failure.scalarMeets_write).bind fun _ w₈ _ => ?_
  exact Action.fails_record_bind fails_pure

theorem run_fails (outcome : BufOutcome) (template dir : Path) (executable : String)
    (w : Workspace) :
    Fails (BufRun.run here outcome template dir executable) w (Failure.ScalarMeets P) := by
  unfold BufRun.run
  simp only
  apply Action.fails_record_bind
  apply Action.fails_tree_bind
  apply fails_modify_bind
  cases outcome with
  | notStarted fault => exact fails_throw fun _ h => nomatch h
  | ended status output errors files =>
      apply fails_modify_bind
      split
      · exact (fails_throw fun _ h => nomatch h).bind fun _ _ h => nomatch h
      · simp only
        split
        · exact Action.fails_record_bind fails_pure
        · exact fails_pure

end Generation

end ConnectClients
