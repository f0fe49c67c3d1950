import ConnectClients.Proofs.Failures
import ConnectClients.Proofs.Generation.Contents
import ConnectClients.Proofs.Generation.Renaming
import ConnectClients.Proofs.Quiet
import ConnectClients.Proofs.ServiceFilter

/-!
# Runs that end by a pattern

The patterns of a request are read when the clients are written. By then both directories are reset:
a run that ends by a pattern that it cannot read has lost what was in them, and leaves the clients
of the services before the one whose name it was looking at.
-/

namespace ConnectClients.Generation

open Runs
open Pattern (PatternFault Explains)
open ServiceFilter (StopsAt)

variable {here : Location} {r : Request} {schemaDir : Option Path} {fault : PatternFault}
  {written : List ClientEntry} {warnings : List String} {w w' : Workspace}

/-! ## Writing clients -/

/-- What becomes of a service does not depend on those behind it: the run ends with a fault of a
pattern or by a failure to write, or it goes on. -/
theorem writeClients_cons (here : Location) (r : Request) (s : Service)
    (written : List ClientEntry) (warnings : List String) (w : Workspace) :
    (∃ f, ServiceFilter.generates s.serviceName r.include? r.exclude? = .error f ∧
      ∀ rest, writeClients here r (s :: rest) written warnings w = .error (.pattern f) w) ∨
    (∃ passes, ServiceFilter.generates s.serviceName r.include? r.exclude? = .ok passes ∧
      ((∃ e w₁, (∀ f, e ≠ .pattern f) ∧
          ∀ rest, writeClients here r (s :: rest) written warnings w = .error e w₁) ∨
        ∃ written₁ warnings₁ w₁, ∀ rest, writeClients here r (s :: rest) written warnings w =
          writeClients here r rest written₁ warnings₁ w₁)) := by
  cases hgenerates : ServiceFilter.generates s.serviceName r.include? r.exclude? with
  | error f =>
      refine Or.inl ⟨f, rfl, fun rest => ?_⟩
      rw [writeClients, hgenerates]
      rfl
  | ok passes =>
      refine Or.inr ⟨passes, rfl, ?_⟩
      have hpasses : ∀ rest, writeClients here r (s :: rest) written warnings w = (do
          if !passes then
            Action.record (.info ("Skipped service " ++ s.serviceName ++ " (filtered)"))
            writeClients here r rest written warnings
          else
            if written.any fun e => e.camelName == s.client.camelName then
              writeClients here r rest written (warnings ++ [repeatWarning s])
            else
              let _ ← Output.writeClient here r.servicesDir s.client
                (ClientModule.render s.client.name s r.moduleName)
              writeClients here r rest (written ++ [s.client]) warnings) w := by
        intro rest
        rw [writeClients, hgenerates]
        rfl
      cases passes with
      | false => exact Or.inr ⟨written, warnings, _, hpasses⟩
      | true =>
          by_cases htaken : (written.any fun e => e.camelName == s.client.camelName) = true
          · refine Or.inr ⟨written, warnings ++ [repeatWarning s], w, fun rest => ?_⟩
            rw [hpasses, if_neg (by decide), if_pos htaken]
          · have hwrites : ∀ rest, writeClients here r (s :: rest) written warnings w = (do
                let _ ← Output.writeClient here r.servicesDir s.client
                  (ClientModule.render s.client.name s r.moduleName)
                writeClients here r rest (written ++ [s.client]) warnings) w := by
              intro rest
              rw [hpasses, if_neg (by decide), if_neg htaken]
            cases hwrite : Output.writeClient here r.servicesDir s.client
                (ClientModule.render s.client.name s r.moduleName) w with
            | ok path w₁ =>
                refine Or.inr ⟨written ++ [s.client], warnings, w₁, fun rest => ?_⟩
                rw [hwrites, bind_eq_of_ok hwrite]
            | error e w₁ =>
                have hfails : Fails (Output.writeClient here r.servicesDir s.client
                    (ClientModule.render s.client.name s r.moduleName)) w fun e => ∀ f, e ≠ .pattern f :=
                  Output.writeInto_fails here _ _ _ w fun _ _ => Failure.noConfusion
                refine Or.inl ⟨e, w₁, hfails.of_error hwrite, fun rest => ?_⟩
                rw [hwrites, bind_eq_of_error hwrite]

/-- Writing clients ends by a pattern at the first service whose name makes the filter get to it. -/
theorem writeClients_eq_pattern_iff {services : List Service} :
    writeClients here r services written warnings w = .error (.pattern fault) w' ↔
      ∃ before s after, services = before ++ s :: after ∧
        (∃ found, writeClients here r before written warnings w = .ok found w') ∧
        ServiceFilter.generates s.serviceName r.include? r.exclude? = .error fault := by
  induction services generalizing written warnings w with
  | nil =>
      rw [writeClients]
      exact iff_of_false (fun h => by cases h) not_exists_split_nil
  | cons s rest ih =>
      rw [exists_split_cons_iff]
      rcases writeClients_cons here r s written warnings w with
        ⟨f, hgenerates, hends⟩ |
        ⟨passes, hgenerates, ⟨e, w₁, hne, hends⟩ | ⟨written₁, warnings₁, w₁, hgoes⟩⟩
      · rw [hends, hgenerates]
        constructor
        · rintro ⟨⟩
          exact Or.inl ⟨⟨_, rfl⟩, rfl⟩
        · rintro (⟨⟨found, hnone⟩, ⟨⟩⟩ | ⟨before, -, -, -, ⟨found, hbefore⟩, -⟩)
          · obtain ⟨-, rfl⟩ := pure_eq_ok_iff.mp hnone
            rfl
          · cases (hends before).symm.trans hbefore
      · rw [hends, hgenerates]
        refine iff_of_false (fun h => ?_) ?_
        · cases h
          exact hne _ rfl
        · rintro (⟨-, ⟨⟩⟩ | ⟨before, -, -, -, ⟨found, hbefore⟩, -⟩)
          cases (hends before).symm.trans hbefore
      · rw [hgoes, ih, hgenerates]
        simp only [hgoes]
        refine (or_iff_right ?_).symm
        rintro ⟨-, ⟨⟩⟩

/-! ## Runs -/

/-- A run is about to write clients: JSON names are taken over, the services are collected, and both
directories are reset. -/
structure Emptied (here : Location) (r : Request) (schemaDir : Option Path) (w : Workspace) where
  found : List String × List String
  renamed : Workspace
  collected : Workspace
  servicesReset : FileTree
  typesReset : FileTree
  rename : renames here r schemaDir w = .ok found renamed
  collect : collectServices here r.generatedDir renamed =
    .ok (declaredServices renamed.tree here r.generatedDir, []) collected
  resetServices : FileTree.Operation.resetDirectory here r.servicesDir renamed.tree =
    .ok () servicesReset
  resetTypes : FileTree.Operation.resetDirectory here (typesDir r.servicesDir) servicesReset =
    .ok () typesReset

namespace Emptied

/-- The services that clients are written of. -/
def services (p : Emptied here r schemaDir w) : List Service :=
  declaredServices p.renamed.tree here r.generatedDir

/-- Where the run is, with nothing in the two directories. -/
def start (p : Emptied here r schemaDir w) : Workspace := { p.collected with tree := p.typesReset }

end Emptied

/-- Taking over JSON names and collecting the services never fails. -/
theorem exists_collected (here : Location) (r : Request) (schemaDir : Option Path) (w : Workspace) :
    ∃ found renamed collected, renames here r schemaDir w = .ok found renamed ∧
      collectServices here r.generatedDir renamed =
        .ok (declaredServices renamed.tree here r.generatedDir, []) collected ∧
      collected.tree = renamed.tree := by
  have hrenames : ∃ found renamed, renames here r schemaDir w = .ok found renamed := by
    cases schemaDir with
    | none => exact ⟨_, w, rfl⟩
    | some dir =>
        obtain ⟨paths, heq⟩ := renames_eq here r dir w
        exact ⟨_, _, heq⟩
  obtain ⟨found, renamed, hrename⟩ := hrenames
  obtain ⟨collected, hcollect, htree⟩ := exists_collectServices here r.generatedDir renamed
  exact ⟨found, renamed, collected, hrename, hcollect, htree⟩

/-- A run ends by a pattern if it is prepared for writing clients, and writing them does. -/
theorem fromModules_eq_pattern_iff :
    fromModules here r schemaDir w = .error (.pattern fault) w' ↔
      ∃ p : Emptied here r schemaDir w,
        writeClients here r p.services [] [] p.start = .error (.pattern fault) w' := by
  obtain ⟨found, renamed, collected, hrename, hcollect, htree⟩ := exists_collected here r schemaDir w
  -- no step but writing the clients reads a pattern
  have hwrite : ∀ fault', Failure.write fault' ≠ .pattern fault := nofun
  have hreset : ∀ p w₁, Fails (Output.reset here p) w₁ (· ≠ .pattern fault) :=
    fun p w₁ => Output.reset_fails here p w₁ hwrite
  have hrun : fromModules here r schemaDir w = writeOutput here r found.1 found.2
      (declaredServices renamed.tree here r.generatedDir) [] collected := by
    rw [fromModules_eq, bind_eq_of_ok hrename]
    exact bind_eq_of_ok hcollect
  rw [hrun]
  unfold writeOutput
  constructor
  · intro h
    rcases bind_eq_error_iff.mp h with h | ⟨_, w₃, hservices, h⟩
    · exact absurd rfl ((hreset _ _).of_error h)
    rcases bind_eq_error_iff.mp h with h | ⟨_, w₄, htypes, h⟩
    · exact absurd rfl ((hreset _ _).of_error h)
    rcases bind_eq_error_iff.mp h with h | ⟨_, w₅, -, h⟩
    · obtain ⟨t₃, hreset₃, rfl⟩ := Action.operate_eq_ok_iff.mp hservices
      obtain ⟨t₄, hreset₄, rfl⟩ := Action.operate_eq_ok_iff.mp htypes
      rw [htree] at hreset₃
      exact ⟨⟨found, renamed, collected, t₃, t₄, hrename, hcollect, hreset₃, hreset₄⟩, h⟩
    · refine absurd rfl (Fails.of_error (P := (· ≠ .pattern fault)) ?_ h)
      refine (Output.writeInto_fails here _ _ _ w₅ hwrite).bind fun _ w₆ _ => ?_
      apply Action.fails_tree_bind
      refine (Output.writeTypesIndex_fails here _ _ w₆ hwrite).bind fun _ w₇ _ => ?_
      refine (Output.writeTransport_fails here _ _ w₇ hwrite).bind fun _ w₈ _ => ?_
      exact Action.fails_record_bind fails_pure
  · rintro ⟨⟨_, _, _, t₃, t₄, hrename', hcollect', hservices, htypes⟩, h⟩
    cases hrename.symm.trans hrename'
    cases hcollect.symm.trans hcollect'
    have hreset₃ : Output.reset here r.servicesDir collected = .ok () { collected with tree := t₃ } :=
      Action.operate_eq_ok_iff.mpr ⟨t₃, htree ▸ hservices, rfl⟩
    have hreset₄ : Output.reset here (typesDir r.servicesDir) { collected with tree := t₃ } =
        .ok () { collected with tree := t₄ } :=
      Action.operate_eq_ok_iff.mpr ⟨t₄, htypes, rfl⟩
    rw [bind_eq_of_ok hreset₃, bind_eq_of_ok hreset₄]
    exact bind_eq_of_error h

/-! ## What is left -/

namespace Emptied

variable (p : Emptied here r schemaDir w)

theorem types_reset (hclosed : w.tree.Closed) (hapart : r.IsApart here) :
    p.typesReset.Holds (r.typesAt here) [] :=
  reset_types ((renames_sameShape p.rename).1.closed hclosed) hapart p.resetServices p.resetTypes

theorem services_reset (hclosed : w.tree.Closed) (hapart : r.IsApart here)
    (hplaced : Path.up ∈ r.servicesDir.segments → r.IsPlaced here w.tree) :
    p.typesReset.Holds (r.servicesAt here) [] :=
  reset_services_kept ((renames_sameShape p.rename).1.closed hclosed) hapart
    (isPlaced_of_renames p.rename hclosed hapart hplaced) p.resetServices p.resetTypes

end Emptied

/-- A request whose include list has a count that is too large. -/
def countRequest : Request := { plainRequest with include? := some ["a\x7b4294967295\x7d"] }

end ConnectClients.Generation
