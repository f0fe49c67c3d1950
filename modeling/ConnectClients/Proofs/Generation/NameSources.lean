import ConnectClients.Proofs.Generation.Frame
import ConnectClients.Proofs.Generation.Renaming
import ConnectClients.Proofs.Quiet

/-!
# Where new names come from

After a run a generated module holds what renaming has left of it: it is renamed by what all schemas
together declare, whichever of them it was generated from. So a module stays as it is if no schema
has another name for a field that it declares; and a schema may rename the fields of a module that
it has nothing to do with.
-/

namespace ConnectClients

open Runs
open Location (resolve)

namespace Runs

variable {ε σ α β γ : Type}

/-- The state that a run leaves, however it ends. -/
def leftBy : EStateM.Result ε σ α → σ
  | .ok _ s => s
  | .error _ s => s

/-- What a run leaves depends on what each of its steps leaves. -/
theorem leftBy_bind_congr (x : EStateM ε σ α) {f : α → EStateM ε σ β} {g : α → EStateM ε σ γ}
    (h : ∀ a s, leftBy (f a s) = leftBy (g a s)) (s : σ) :
    leftBy ((x >>= f) s) = leftBy ((x >>= g) s) := by
  cases hx : x s with
  | ok a s₁ =>
      rw [bind_eq_of_ok hx, bind_eq_of_ok hx]
      exact h a s₁
  | error e s₁ =>
      rw [bind_eq_of_error hx, bind_eq_of_error hx]
      rfl

end Runs

namespace Generation

variable {here : Location} {r : Request} {dir : Path} {w : Workspace} {m : List String}

/-! ## After the names are taken over -/

theorem Run.after_eq (run : Run) (w : Workspace) :
    run.after w = leftBy (fromModules run.here run.request run.schemaDir w) := by
  rw [Run.after]
  cases fromModules run.here run.request run.schemaDir w with
  | ok res w' => rfl
  | error failure w' => rfl

/-- What is told of the renaming has no effect on what is written. -/
theorem leftBy_writeOutput (renamed renamed' told told' : List String) (services : List Service)
    (readWarnings : List String) (w : Workspace) :
    leftBy (writeOutput here r renamed told services readWarnings w) =
      leftBy (writeOutput here r renamed' told' services readWarnings w) := by
  revert w
  -- only what the last step gives has any of it
  refine leftBy_bind_congr _ fun _ => ?_
  refine leftBy_bind_congr _ fun _ => ?_
  refine leftBy_bind_congr _ fun _ => ?_
  refine leftBy_bind_congr _ fun _ => ?_
  refine leftBy_bind_congr _ fun _ => ?_
  refine leftBy_bind_congr _ fun _ => ?_
  refine leftBy_bind_congr _ fun _ => ?_
  exact leftBy_bind_congr _ fun _ _ => rfl

/-- Once the names are taken over, a run goes on like one without schemas. -/
theorem Run.after_renames (here : Location) (r : Request) (dir : Path) (w : Workspace) :
    (Run.mk here r (some dir)).after w = (Run.mk here r none).after { w with
      tree := renamedModules here r.generatedDir (mergedNames w.tree here dir) w.tree } := by
  obtain ⟨paths, hrename⟩ := renames_eq here r dir w
  rw [Run.after_eq, Run.after_eq]
  dsimp only
  rw [fromModules_eq, bind_eq_of_ok hrename]
  refine leftBy_bind_congr _ ?_ _
  rintro ⟨services, readWarnings⟩
  exact leftBy_writeOutput paths [] _ [] services readWarnings

/-- Outside of its two directories, a run leaves a module as the renaming leaves it. -/
theorem Run.after_module (hnamed : w.tree.Named)
    (hm : m ∈ Discovery.modules w.tree here r.generatedDir)
    (hout : ¬ r.Inside here (r.moduleAt here m)) :
    ((Run.mk here r (some dir)).after w).tree.get? (r.moduleAt here m) =
      (renamedTree here r.generatedDir (mergedNames w.tree here dir) w.tree m).get?
        (r.moduleAt here m) := by
  have hup : ∀ m ∈ Discovery.modules w.tree here r.generatedDir, Path.up ∉ m :=
    fun m hm => hnamed.up_not_mem_of_listed hm
  have hrenamed : (renamedModules here r.generatedDir (mergedNames w.tree here dir) w.tree).get?
      (r.moduleAt here m) = _ :=
    get?_foldl_renamedTree hup
      (FileTree.listFiles_sorted w.tree here r.generatedDir Discovery.moduleEnding).1 hm
  have hthere : (renamedModules here r.generatedDir (mergedNames w.tree here dir) w.tree).get?
      (r.moduleAt here m) ≠ none := by
    obtain ⟨-, -, ⟨octets, hfile⟩, -⟩ := FileTree.mem_listFiles_iff.mp hm
    rw [Ne, renamedModules, (foldl_renamedTree_sameShape w.tree).none_iff, Request.moduleAt,
      FileTree.resolve_below (hup m hm), hfile]
    exact Option.some_ne_none _
  rw [Run.after_renames]
  -- without schemas there is no module that the rest of the run might write over
  have hframed := (Run.mk here r none).after_framed { w with
    tree := renamedModules here r.generatedDir (mergedNames w.tree here dir) w.tree } hout
  exact (hframed.eq_of_there hthere fun m' hm' => absurd rfl hm'.1).trans hrenamed

/-! ## What is left of a module -/

open FieldRename (AreFieldNames Settled declaredIn follow rename)

/-- **Any schema may rename the fields of a module.** A module outside of the two directories of a
run stays as it is exactly if every name that it declares is settled in the dictionary of all
schemas, or is given back in the end and the module was written as it would be written again. If it
changes, then some schema has another name for a field that the module declares; it need not be the
schema that the module was generated from. A module that cannot be read stays as it is. -/
theorem Run.module_kept_iff (dir : Path) (hnamed : w.tree.Named)
    (hm : m ∈ Discovery.modules w.tree here r.generatedDir)
    (hout : ¬ r.Inside here (r.moduleAt here m)) :
    (∀ fault, w.tree.readText here (r.generatedDir.below m) = .error fault →
      ((Run.mk here r (some dir)).after w).tree.get? (r.moduleAt here m) =
        w.tree.get? (r.moduleAt here m)) ∧
    ∀ content octets, w.tree.readText here (r.generatedDir.below m) = .ok content →
      w.tree.get? (r.moduleAt here m) = some (.file octets) →
      (((Run.mk here r (some dir)).after w).tree.get? (r.moduleAt here m) = some (.file octets) ↔
        (∀ name ∈ declaredIn content, Settled (mergedNames w.tree here dir) name) ∨
        ((∀ name ∈ declaredIn content, follow (mergedNames w.tree here dir) name = name) ∧
          Text.encode content = octets)) ∧
      (((Run.mk here r (some dir)).after w).tree.get? (r.moduleAt here m) ≠ some (.file octets) →
        ((Run.mk here r (some dir)).after w).tree.get? (r.moduleAt here m) =
          some (.file (Text.encode (rename (follow (mergedNames w.tree here dir)) content))) ∧
        ∃ s ∈ Discovery.schemas w.tree here dir, ∃ e ∈ schemaNames w.tree here dir s,
          e.1 ∈ declaredIn content ∧ e.2 ≠ e.1) := by
  have hnames : AreFieldNames (mergedNames w.tree here dir) := areFieldNames_mergedNames
  rw [Run.after_module hnamed hm hout]
  constructor
  · intro fault hread
    rw [renamedTree, hread]
  · intro content octets hread hfile
    by_cases hsettled : ∀ name ∈ declaredIn content, Settled (mergedNames w.tree here dir) name
    · have hsame : (renamedTree here r.generatedDir (mergedNames w.tree here dir) w.tree m).get?
          (r.moduleAt here m) = some (.file octets) := by
        rw [renamedTree, hread]
        dsimp only
        rw [if_pos hsettled, hfile]
      exact ⟨iff_of_true hsame (Or.inl hsettled), fun hne => absurd hsame hne⟩
    · have hafter : (renamedTree here r.generatedDir (mergedNames w.tree here dir) w.tree m).get?
          (r.moduleAt here m) =
            some (.file (Text.encode (rename (follow (mergedNames w.tree here dir)) content))) := by
        rw [renamedTree, hread]
        dsimp only
        rw [if_neg hsettled]
        exact FileTree.get?_put_self (FileTree.ne_nil_of_file hfile) _ _
      rw [hafter]
      refine ⟨?_, fun _ => ⟨rfl, ?_⟩⟩
      · rw [Option.some_inj, Item.file.injEq, or_iff_right hsettled,
          ← FieldRename.rename_follow_eq_self_iff hnames]
        constructor
        · intro h
          have hreturn := FieldRename.not_mem_rename (fun _ => FieldRename.isFieldName_follow hnames)
            (by decide) (FileTree.return_not_mem_of_readText hread)
          have hself := FileTree.eq_of_encode_eq hread hfile hreturn h
          exact ⟨hself, hself ▸ h⟩
        · rintro ⟨hself, h⟩
          rw [hself, h]
      · -- a name that is not settled has an entry, and some schema has declared it
        push Not at hsettled
        obtain ⟨name, hname, hnot⟩ := hsettled
        unfold Settled at hnot
        push Not at hnot
        obtain ⟨e, he, rfl, hne⟩ := hnot
        obtain ⟨s, hs, hdeclared⟩ := mem_mergedNames he
        exact ⟨s, hs, e, hdeclared, hname, hne⟩

/-- Two modules with a field of one name, of which only the first schema gives it a JSON name. -/
def pairWorkspace : Workspace where
  tree :=
    { items := [(["protos"], .directory),
        (["protos", "a.proto"], .file (Text.encode "string first_name = 1 [json_name = \"given\"];\n")),
        (["protos", "b.proto"], .file (Text.encode "string first_name = 1;\n")),
        (["gen"], .directory), (["gen", "a_pb.ts"], .file (Text.encode "  firstName: string;\n")),
        (["gen", "b_pb.ts"], .file (Text.encode "  firstName: string;\n"))]
      nodup := by decide }

/-- The second module gets the name that the first schema declares. -/
theorem pair_module_renamed :
    schemaNames pairWorkspace.tree [] ⟨"", ["protos"]⟩ ["b.proto"] = [] ∧
      ((Run.mk [] plainRequest (some ⟨"", ["protos"]⟩)).after pairWorkspace).tree.get?
        ["gen", "b_pb.ts"] = some (.file (Text.encode "  given: string;\n")) ∧
      ∃ s ∈ Discovery.schemas pairWorkspace.tree [] ⟨"", ["protos"]⟩,
        ∃ e ∈ schemaNames pairWorkspace.tree [] ⟨"", ["protos"]⟩ s,
          e.1 ∈ declaredIn "  firstName: string;\n" ∧ e.2 ≠ e.1 := by
  have hschemas : Discovery.schemas pairWorkspace.tree [] ⟨"", ["protos"]⟩ =
      [["a.proto"], ["b.proto"]] := by
    have hlocate : pairWorkspace.tree.locate [] ⟨"", ["protos"]⟩ = .ok ["protos"] := by decide
    exact FileTree.listFiles_of_sorted hlocate (by decide) (by decide +kernel) (by decide +kernel)
  have hmodules : Discovery.modules pairWorkspace.tree [] plainRequest.generatedDir =
      [["a_pb.ts"], ["b_pb.ts"]] := by
    have hlocate : pairWorkspace.tree.locate [] plainRequest.generatedDir = .ok ["gen"] := by decide
    exact FileTree.listFiles_of_sorted hlocate (by decide) (by decide +kernel) (by decide +kernel)
  have hmerged : mergedNames pairWorkspace.tree [] ⟨"", ["protos"]⟩ = [("firstName", "given")] := by
    rw [mergedNames, hschemas]
    decide +kernel
  have hout : ¬ plainRequest.Inside [] (plainRequest.moduleAt [] ["b_pb.ts"]) := by
    unfold Request.Inside
    decide
  have hnamed : pairWorkspace.tree.Named := FileTree.named_of_items (by decide)
  obtain ⟨-, hkept⟩ := Run.module_kept_iff ⟨"", ["protos"]⟩ hnamed (by simp [hmodules]) hout
  obtain ⟨hiff, hchanged⟩ := hkept "  firstName: string;\n" (Text.encode "  firstName: string;\n")
    (by decide +kernel) (by decide)
  rw [hmerged] at hiff hchanged
  obtain ⟨hafter, hschema⟩ := hchanged (mt hiff.mp (by decide +kernel))
  refine ⟨by decide +kernel, hafter.trans ?_, hschema⟩
  decide +kernel

end Generation

end ConnectClients
