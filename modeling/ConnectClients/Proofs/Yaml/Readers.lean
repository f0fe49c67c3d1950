import ConnectClients.Proofs.Failures
import ConnectClients.SettingsFile

/-!
# Readers of files

The settings of a project and the files of buf's modules are YAML documents. A reader turns what
can be wrong with a file into a failure of its own or into an empty document, except for one thing:
a scalar that has no value ends it.
-/

namespace ConnectClients

open Runs
open Yaml (loadFile ScalarFault FileFault)

variable {here : Location} {w : Workspace} {fault : ScalarFault}

/-! ## Settings -/

namespace Settings

theorem load_of_scalar {path : Path} (h : loadFile w.tree here path = .error (.scalar fault)) :
    load here path w = .error (.scalar fault) w := by
  rw [load, Action.tree_bind_eq, h]
  rfl

theorem load_of_not_scalar {path : Path}
    (h : ∀ fault, loadFile w.tree here path ≠ .error (.scalar fault)) :
    (∃ s, load here path w = .ok s w) ∨ ∃ f, load here path w = .error (.settings f) w := by
  rw [load, Action.tree_bind_eq]
  cases hfile : loadFile w.tree here path with
  | ok v =>
      simp only
      cases hsettings : ofDocument path v with
      | ok s => exact Or.inl ⟨s, rfl⟩
      | error f => exact Or.inr ⟨f, rfl⟩
  | error f =>
      cases f with
      | unreadable f => exact Or.inr ⟨_, rfl⟩
      | malformed => exact Or.inr ⟨_, rfl⟩
      | scalar fault => exact absurd hfile (h fault)

end Settings

/-! ## Modules of buf -/

namespace BufModule

theorem document_of_scalar {p : Path} (h : loadFile w.tree here p = .error (.scalar fault)) :
    document here p w = .error (.scalar fault) w := by
  rw [document, Action.tree_bind_eq, h]
  rfl

/-- A file that cannot be read or is malformed counts as an empty one. -/
theorem document_of_not_scalar {p : Path}
    (h : ∀ fault, loadFile w.tree here p ≠ .error (.scalar fault)) :
    ∃ fields w', document here p w = .ok fields w' ∧ w'.tree = w.tree ∧
      ((∃ f, loadFile w.tree here p = .error f) → fields = []) := by
  rw [document, Action.tree_bind_eq]
  cases hfile : loadFile w.tree here p with
  | ok v =>
      cases v with
      | dict fields => exact ⟨fields, w, rfl, rfl, nofun⟩
      | _ => exact ⟨[], w, rfl, rfl, fun _ => rfl⟩
  | error f =>
      cases f with
      | unreadable f => exact ⟨[], _, rfl, rfl, fun _ => rfl⟩
      | malformed => exact ⟨[], _, rfl, rfl, fun _ => rfl⟩
      | scalar fault => exact absurd hfile (h fault)

variable {start : Path} {root : Location}

theorem find?_of_scalar (hroot : rootAbove? w.tree (Location.resolve here start) = some root)
    (h : loadFile w.tree here (root.path.child fileName) = .error (.scalar fault)) :
    find? here start w = .error (.scalar fault) w := by
  rw [find?, Action.tree_bind_eq, hroot]
  exact bind_eq_of_error (document_of_scalar h)

theorem find?_of_not_scalar (hroot : rootAbove? w.tree (Location.resolve here start) = some root)
    (h : ∀ fault, loadFile w.tree here (root.path.child fileName) ≠ .error (.scalar fault)) :
    ∃ m w', find? here start w = .ok (some m) w' ∧ w'.tree = w.tree ∧ m.root = root ∧
      ((∃ f, loadFile w.tree here (root.path.child fileName) = .error f) → m.schemaDir = none) := by
  obtain ⟨fields, w₁, hdocument, htree, hempty⟩ := document_of_not_scalar h
  rw [find?, Action.tree_bind_eq, hroot]
  simp only
  rw [bind_eq_of_ok hdocument]
  cases hnamed : namedPath? fields with
  | none => exact ⟨⟨root, none⟩, w₁, rfl, htree, rfl, fun _ => rfl⟩
  | some text =>
      have hfull : ¬ ∃ f, loadFile w.tree here (root.path.child fileName) = .error f := by
        intro herror
        have hnone : namedPath? [] = none := by decide
        rw [hempty herror, hnone] at hnamed
        cases hnamed
      simp only
      split
      · exact ⟨_, _, rfl, htree, rfl, fun herror => absurd herror hfull⟩
      · exact ⟨_, _, rfl, htree, rfl, fun herror => absurd herror hfull⟩

theorem find?_of_none (hroot : rootAbove? w.tree (Location.resolve here start) = none) :
    find? here start w = .ok none w := by
  rw [find?, Action.tree_bind_eq, hroot]
  rfl

theorem dependencies_of_scalar {file : Path} (hfile : w.tree.pathIsFile here file = true)
    (h : loadFile w.tree here file = .error (.scalar fault)) :
    dependencies here file w = .error (.scalar fault) w := by
  rw [dependencies, Action.tree_bind_eq, hfile]
  exact bind_eq_of_error (document_of_scalar h)

theorem dependencies_of_not_scalar {file : Path}
    (h : ∀ fault, loadFile w.tree here file ≠ .error (.scalar fault)) :
    ∃ deps w', dependencies here file w = .ok deps w' ∧ w'.tree = w.tree ∧
      ((∃ f, loadFile w.tree here file = .error f) → deps = []) := by
  rw [dependencies, Action.tree_bind_eq]
  split
  · exact ⟨[], w, rfl, rfl, fun _ => rfl⟩
  · obtain ⟨fields, w₁, hdocument, htree, hempty⟩ := document_of_not_scalar h
    refine ⟨_, w₁, bind_eq_of_ok hdocument, htree, fun herror => ?_⟩
    rw [hempty herror]
    rfl

/-- A file of a module has a scalar without a value. -/
def HasFault (t : FileTree) (here : Location) (fault : ScalarFault) : Prop :=
  ∃ root : Location, loadFile t here (root.path.child fileName) = .error (.scalar fault)

theorem document_fails (p : Path) : Fails (document here p) w
    (Failure.ScalarMeets fun fault => loadFile w.tree here p = .error (.scalar fault)) := by
  rw [document]
  apply Action.fails_tree_bind
  cases hfile : loadFile w.tree here p with
  | ok v =>
      cases v with
      | dict fields => exact fails_pure
      | _ => exact fails_pure
  | error f =>
      cases f with
      | unreadable f => exact Action.fails_record_bind fails_pure
      | malformed => exact Action.fails_record_bind fails_pure
      | scalar fault =>
          refine fails_throw fun fault' heq => ?_
          cases heq
          rfl

theorem find?_fails (start : Path) :
    Fails (find? here start) w (Failure.ScalarMeets (HasFault w.tree here)) := by
  rw [find?]
  apply Action.fails_tree_bind
  cases rootAbove? w.tree (Location.resolve here start) with
  | none => exact fails_pure
  | some root =>
      have hdocument : Fails (document here (root.path.child fileName)) w
          (Failure.ScalarMeets (HasFault w.tree here)) :=
        ⟨fun hrun fault heq => ⟨root, (document_fails _).of_error hrun fault heq⟩⟩
      refine hdocument.bind fun fields w₁ _ => ?_
      cases namedPath? fields with
      | none => exact fails_pure
      | some text =>
          simp only
          split
          · exact Action.fails_record_bind fails_pure
          · exact fails_pure

theorem dependencies_fails (root : Location) :
    Fails (dependencies here (root.path.child fileName)) w
      (Failure.ScalarMeets (HasFault w.tree here)) := by
  rw [dependencies]
  apply Action.fails_tree_bind
  split
  · exact fails_pure
  · have hdocument : Fails (document here (root.path.child fileName)) w
        (Failure.ScalarMeets (HasFault w.tree here)) :=
      ⟨fun hrun fault heq => ⟨root, (document_fails _).of_error hrun fault heq⟩⟩
    exact hdocument.bind fun _ _ _ => fails_pure

theorem tree_of_find? {start : Path} {m : Option BufModule} {w' : Workspace}
    (h : find? here start w = .ok m w') : w'.tree = w.tree := by
  cases hroot : rootAbove? w.tree (Location.resolve here start) with
  | none =>
      rw [find?_of_none hroot] at h
      cases h
      rfl
  | some root =>
      by_cases hscalar : ∃ fault, loadFile w.tree here (root.path.child fileName) =
          .error (.scalar fault)
      · obtain ⟨fault, hscalar⟩ := hscalar
        rw [find?_of_scalar hroot hscalar] at h
        cases h
      · obtain ⟨m', w₁, hfound, htree, -⟩ :=
          find?_of_not_scalar hroot fun fault hfault => hscalar ⟨fault, hfault⟩
        rw [hfound] at h
        cases h
        exact htree

theorem tree_of_dependencies {file : Path} {deps : List String} {w' : Workspace}
    (h : dependencies here file w = .ok deps w') : w'.tree = w.tree := by
  by_cases hscalar : ∃ fault, loadFile w.tree here file = .error (.scalar fault)
  · obtain ⟨fault, hscalar⟩ := hscalar
    by_cases hfile : w.tree.pathIsFile here file = true
    · rw [dependencies_of_scalar hfile hscalar] at h
      cases h
    · rw [dependencies, Action.tree_bind_eq, Bool.eq_false_iff.mpr hfile] at h
      cases h
      rfl
  · obtain ⟨deps', w₁, hrun, htree, -⟩ :=
      dependencies_of_not_scalar fun fault hfault => hscalar ⟨fault, hfault⟩
    rw [hrun] at h
    cases h
    exact htree

end BufModule

end ConnectClients
