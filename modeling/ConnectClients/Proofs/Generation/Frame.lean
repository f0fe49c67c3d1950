import ConnectClients.Proofs.Generation.Contents
import ConnectClients.Proofs.Generation.Scope

/-!
# What a run leaves alone

However a run ends, outside of its two directories it has changed no more than it says:
it may have renamed fields in generated modules, made directories on the way to its
output, and written the shared module where there was none.
-/

namespace ConnectClients.Generation

open Runs
open FileTree (Touch)

variable {here : Location} {r : Request} {ms : List String → Prop} {t : FileTree}

/-! ## Outside of the two directories -/

/-- What may have become of what was at a location outside of the directories of a run,
with the modules that it may write over. -/
inductive Framed (here : Location) (r : Request) (ms : List String → Prop) (l : Location) :
    Option Item → Option Item → Prop
  | same (item : Option Item) : Framed here r ms l item item
  | renamed {m : List String} {before after : List UInt8} (hm : ms m) (hl : l = r.moduleAt here m) :
      Framed here r ms l (some (.file before)) (some (.file after))
  | shared {octets : List UInt8} (hl : l = r.transportAt here) :
      Framed here r ms l none (some (.file octets))
  | made (hl : r.OnWays here l) : Framed here r ms l none (some .directory)

theorem framed_of_touch {l : Location} {before after : Option Item} (hout : ¬ r.Inside here l)
    (h : Touch (r.scope here ms) l before after) : Framed here r ms l before after := by
  cases h with
  | same => exact .same _
  | removed hempty => exact absurd hempty hout
  | made hmade hfree =>
      rcases hfree with rfl | hempty
      · exact .made hmade
      · exact absurd hempty hout
  | written hwritten hfree =>
      rcases hfree with rfl | hempty
      · rcases hwritten with ⟨dir, name, hdir, rfl, -⟩ | hshared
        · refine absurd ?_ hout
          rcases hdir with rfl | rfl
          · exact Or.inl (List.prefix_append _ _)
          · exact Or.inr (List.prefix_append _ _)
        · exact .shared hshared
      · exact absurd hempty hout
  | rewritten hrewritten =>
      obtain ⟨m, hm, hl⟩ := hrewritten
      exact .renamed hm hl

theorem Framed.eq_of_there {l : Location} {before after : Option Item} (h : Framed here r ms l before after)
    (hthere : before ≠ none) (hno : ∀ m, ms m → l ≠ r.moduleAt here m) : after = before := by
  cases h with
  | same => rfl
  | renamed hm hl => exact absurd hl (hno _ hm)
  | shared => exact absurd rfl hthere
  | made => exact absurd rfl hthere

/-- Whether the last name on the way to a location is that of a generated module. -/
def isModuleName (l : Location) : Bool :=
  l.getLast?.any fun name => Discovery.moduleEnding.toList.isSuffixOf name.toList

theorem isModuleName_moduleAt {m : List String} (hm : m ∈ Discovery.modules t here r.generatedDir) :
    isModuleName (r.moduleAt here m) = true := by
  obtain ⟨-, hne, -, name, hlast, hending⟩ := FileTree.mem_listFiles_iff.mp hm
  have hname : name ≠ Path.up := by
    rintro rfl
    exact absurd hending (by decide)
  have hsegments : m.dropLast ++ [name] = m := by
    rw [← List.dropLast_append_getLast hne, List.dropLast_concat]
    congr 2
    rw [List.getLast?_eq_some_getLast hne] at hlast
    exact (Option.some.inj hlast).symm
  have hpath : (r.generatedDir.below m).segments =
      (r.generatedDir.segments ++ m.dropLast) ++ [name] := by
    rw [List.append_assoc, hsegments]
    rfl
  rw [isModuleName, Request.moduleAt, Location.resolve_eq, hpath,
    Location.along_concat_name _ _ hname, List.getLast?_concat]
  exact List.isSuffixOf_iff_suffix.mpr hending

/-- A run, with all that it is given. -/
structure Run where
  here : Location
  request : Request
  schemaDir : Option Path

/-- The workspace as a run leaves it, however it ends. -/
def Run.after (run : Run) (w : Workspace) : Workspace :=
  match fromModules run.here run.request run.schemaDir w with
  | .ok _ w' => w'
  | .error _ w' => w'

theorem Run.after_framed (run : Run) (w : Workspace) {l : Location}
    (hout : ¬ run.request.Inside run.here l) :
    Framed run.here run.request (Rewritable w.tree run.here run.request run.schemaDir) l
      (w.tree.get? l) ((run.after w).tree.get? l) := by
  have hends := fromModules_ends run.here run.request run.schemaDir w
  rw [Run.after]
  cases hrun : fromModules run.here run.request run.schemaDir w with
  | ok res w' => exact framed_of_touch hout (scope_mono (hends.of_ok hrun) (fun _ hm => hm.1) l)
  | error failure w' => exact framed_of_touch hout (hends.of_error hrun l)

/-- What is there outside of its directories is kept by a run, unless it is a module. -/
theorem Run.after_kept (run : Run) {w : Workspace} {l : Location} (hthere : w.tree.get? l ≠ none)
    (hout : ¬ run.request.Inside run.here l) (hname : isModuleName l = false) :
    (run.after w).tree.get? l = w.tree.get? l := by
  apply (run.after_framed w hout).eq_of_there hthere
  rintro m ⟨-, hm⟩ rfl
  rw [isModuleName_moduleAt hm] at hname
  exact Bool.noConfusion hname

/-- Runs one after the other, each with its own directories, and however they end. -/
theorem foldl_after_kept {runs : List Run} {w : Workspace} {l : Location}
    (hthere : w.tree.get? l ≠ none) (hout : ∀ run ∈ runs, ¬ run.request.Inside run.here l)
    (hname : isModuleName l = false) :
    (runs.foldl (fun w run => run.after w) w).tree.get? l = w.tree.get? l := by
  induction runs generalizing w with
  | nil => rfl
  | cons run rest ih =>
      have hfirst := run.after_kept hthere (hout run List.mem_cons_self) hname
      rw [List.foldl_cons, ih (by rw [hfirst]; exact hthere)
        fun run' hrun' => hout run' (List.mem_cons_of_mem _ hrun'), hfirst]

/-- However a run ends, what was outside of its two directories is as it was, but for
generated modules that were rewritten, the shared module if there was none, and missing
directories on the way to the output. A run that succeeds lists the modules that it has
rewritten. So what is there stays as it is through any runs, unless it is a module. -/
theorem fromModules_frame :
    (∀ here r schemaDir w l, ¬ r.Inside here l →
      (∀ res w', fromModules here r schemaDir w = .ok res w' →
        Framed here r (fun m => Rewritable w.tree here r schemaDir m ∧
          Path.slashed m ∈ res.renamedFiles) l (w.tree.get? l) (w'.tree.get? l)) ∧
      ∀ failure w', fromModules here r schemaDir w = .error failure w' →
        Framed here r (Rewritable w.tree here r schemaDir) l (w.tree.get? l) (w'.tree.get? l)) ∧
    ∀ (runs : List Run) (w : Workspace) (l : Location), w.tree.get? l ≠ none →
      (∀ run ∈ runs, ¬ run.request.Inside run.here l) → isModuleName l = false →
        (runs.foldl (fun w run => run.after w) w).tree.get? l = w.tree.get? l := by
  constructor
  · intro here r schemaDir w l hout
    have hends := fromModules_ends here r schemaDir w
    exact ⟨fun res w' hrun => framed_of_touch hout (hends.of_ok hrun l),
      fun failure w' hrun => framed_of_touch hout (hends.of_error hrun l)⟩
  · exact fun runs w l => foldl_after_kept

/-- A module with a field that its schema gives a JSON name, and a shared module that is
there already. -/
def renamedWorkspace : Workspace where
  tree :=
    { items := [(["protos"], .directory),
        (["protos", "a.proto"], .file (Text.encode "string first_name = 1 [json_name = \"given\"];\n")),
        (["gen"], .directory), (["gen", "a_pb.ts"], .file (Text.encode "  firstName: string;\n")),
        (["connect-client.ts"], .file [])]
      nodup := by decide }

def renamingRun : Run := ⟨[], plainRequest, some ⟨"", ["protos"]⟩⟩

/-- Run twice, the request renames the field, and keeps the schema and the shared module. -/
theorem renamedWorkspace_frame :
    (∃ res w', fromModules [] plainRequest (some ⟨"", ["protos"]⟩) renamedWorkspace = .ok res w' ∧
      res.renamedFiles = ["a_pb.ts"] ∧
      Framed [] plainRequest (fun m => Rewritable renamedWorkspace.tree [] plainRequest
          (some ⟨"", ["protos"]⟩) m ∧ Path.slashed m ∈ res.renamedFiles) ["gen", "a_pb.ts"]
        (some (.file (Text.encode "  firstName: string;\n")))
        (some (.file (Text.encode "  given: string;\n")))) ∧
    ∀ l ∈ [["protos", "a.proto"], ["connect-client.ts"]],
      ([renamingRun, renamingRun].foldl (fun w run => run.after w) renamedWorkspace).tree.get? l =
        renamedWorkspace.tree.get? l := by
  constructor
  · obtain ⟨res, w', hrun, htest⟩ := exists_ok_of_meets
      (fun res w => res.renamedFiles == ["a_pb.ts"] && w.tree.get? ["gen", "a_pb.ts"] ==
        some (.file (Text.encode "  given: string;\n")))
      (fromModules [] plainRequest (some ⟨"", ["protos"]⟩)) renamedWorkspace (by decide +kernel)
    rw [Bool.and_eq_true, beq_iff_eq, beq_iff_eq] at htest
    have hframed := (fromModules_frame.1 [] plainRequest (some ⟨"", ["protos"]⟩) renamedWorkspace
      ["gen", "a_pb.ts"] (by unfold Request.Inside; decide)).1 res w' hrun
    rw [htest.2] at hframed
    exact ⟨res, w', hrun, htest.1, hframed⟩
  · intro l hl
    refine fromModules_frame.2 _ renamedWorkspace l ?_ ?_ ?_
    · revert l
      decide
    · unfold Request.Inside
      revert l
      decide
    · revert l
      decide

end ConnectClients.Generation
