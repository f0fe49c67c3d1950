import ConnectClients.Proofs.Generation.Contents
import ConnectClients.Proofs.Generation.Renaming
import ConnectClients.Proofs.Quiet

/-!
# Modules that cannot be read

A generated module is read when names are taken over and when services are looked for. The first
reading warns of a module that cannot be read, but it takes place only if a schema declares a JSON
name; the second one always takes place, and only makes a record in the log. What is left is read a
third time, and by then every module can be read.
-/

namespace ConnectClients.Generation

open Runs
open Location (resolve)

variable {here : Location} {r : Request} {schemaDir : Option Path} {dir : Path}
  {m : List String} {fault : FileTree.ReadFault} {w w' : Workspace}

/-! ## The record -/

/-- What is recorded of a module that is passed over. -/
def skipRecord (path : Path) (fault : FileTree.ReadFault) : LogRecord :=
  .warning ("Skipping unreadable generated module " ++ path.toString ++ ": " ++ fault.kind)

/-- What one of the tests of a filter records is in the log in the end. -/
theorem filterAuxM_records {α : Type} {test : α → Action Bool} {record : LogRecord} {a : α}
    (hquiet : ∀ a, IsQuiet (test a))
    (hrecords : ∀ w b w', test a w = .ok b w' → record ∈ w'.log) {as found kept : List α}
    (ha : a ∈ as) (h : List.filterAuxM test as found w = .ok kept w') : record ∈ w'.log := by
  induction as generalizing found w with
  | nil => exact absurd ha List.not_mem_nil
  | cons first rest ih =>
      rw [List.filterAuxM, bind_eq_ok_iff] at h
      obtain ⟨b, w₁, htest, h⟩ := h
      rcases List.mem_cons.mp ha with rfl | ha
      · -- what the other tests record comes behind it
        have hkeeps := keeps_filterAuxM (fun a => (hquiet a).keeps w₁) rest
        exact ((hkeeps _ w₁ (Quiet.refl w₁)).of_ok h).log.subset (hrecords w b w₁ htest)
      · exact ih ha h

/-- Looking for services makes a record of every module that cannot be read. -/
theorem collectServices_records {found : List Service × List String}
    (hm : m ∈ Discovery.modules w.tree here dir)
    (hread : w.tree.readText here (dir.below m) = .error fault)
    (h : collectServices here dir w = .ok found w') :
    skipRecord (dir.below m) fault ∈ w'.log := by
  obtain ⟨files, w₁, hfiles, h⟩ := bind_eq_ok_iff.mp h
  obtain ⟨t, w₂, htree, h⟩ := bind_eq_ok_iff.mp h
  obtain ⟨rfl, rfl⟩ := Action.tree_eq_ok_iff.mp htree
  obtain ⟨-, rfl⟩ := pure_eq_ok_iff.mp h
  rw [Discovery.serviceFiles, Action.tree_bind_eq, List.filterM] at hfiles
  obtain ⟨kept, w₃, hfilter, h⟩ := bind_eq_ok_iff.mp hfiles
  obtain ⟨-, rfl⟩ := pure_eq_ok_iff.mp h
  refine filterAuxM_records (fun m' => ?_) (fun w₄ b w₅ htest => ?_) hm hfilter
  · cases w.tree.readText here (dir.below m') with
    | ok content => exact .pure _
    | error fault' => exact (IsQuiet.record _).bind fun _ => .pure false
  · rw [hread] at htest
    obtain ⟨_, w₆, hrecord, htest⟩ := bind_eq_ok_iff.mp htest
    obtain rfl := Action.record_eq_ok_iff.mp hrecord
    obtain ⟨-, rfl⟩ := pure_eq_ok_iff.mp htest
    exact List.mem_append_right _ (List.mem_singleton_self _)

/-- Taking over names makes no module readable, and lists the same modules. -/
theorem unreadable_of_renames {found : List String × List String}
    (h : renames here r schemaDir w = .ok found w') :
    (∀ m, m ∈ Discovery.modules w'.tree here r.generatedDir ↔
      m ∈ Discovery.modules w.tree here r.generatedDir) ∧
    ∀ p fault, w'.tree.readText here p = .error fault ↔ w.tree.readText here p = .error fault := by
  constructor
  · exact fun m => (renames_sameShape h).1.mem_listFiles_iff
  · intro p fault
    cases schemaDir with
    | none =>
        obtain ⟨-, rfl⟩ := pure_eq_ok_iff.mp h
        rfl
    | some schemaDir =>
        obtain ⟨paths, heq⟩ := renames_eq here r schemaDir w
        rw [heq] at h
        cases h
        exact readText_foldl_renamedTree_error_iff

theorem fromModules_records {res : GenerationResult}
    (hm : m ∈ Discovery.modules w.tree here r.generatedDir)
    (hread : w.tree.readText here (r.generatedDir.below m) = .error fault)
    (h : fromModules here r schemaDir w = .ok res w') :
    skipRecord (r.generatedDir.below m) fault ∈ w'.log := by
  rw [fromModules_eq] at h
  obtain ⟨⟨renamed, renameWarnings⟩, w₁, hrename, h⟩ := bind_eq_ok_iff.mp h
  obtain ⟨⟨services, readWarnings⟩, w₂, hcollect, h⟩ := bind_eq_ok_iff.mp h
  obtain ⟨hlisted, hreads⟩ := unreadable_of_renames hrename
  have hrecorded := collectServices_records ((hlisted m).mpr hm) ((hreads _ _).mpr hread) hcollect
  exact ((writeOutput_quiet here r _ _ _ _ w₂).of_ok h).log.subset hrecorded

/-! ## The warnings -/

/-- The warning about a module that is not taken into account for names. -/
def moduleWarning (path : Path) (fault : FileTree.ReadFault) : String :=
  "Could not read generated module " ++ path.toString ++ ": " ++ fault.message

theorem led_append (lead path message : String) :
    lead.toList <+: (lead ++ path ++ ": " ++ message).toList := by
  rw [String.append_assoc, String.append_assoc, String.toList_append]
  exact List.prefix_append _ _

/-- Some schema that can be read declares a JSON name. -/
def DeclaresNames (t : FileTree) (here : Location) (schemaDir : Option Path) : Prop :=
  ∃ dir ∈ schemaDir, ∃ s ∈ Discovery.schemas t here dir, ∃ source,
    t.readText here (dir.below s) = .ok source ∧ FieldRename.ofSchema source ≠ []

theorem declaresNames_some_iff {t : FileTree} :
    DeclaresNames t here (some dir) ↔ mergedNames t here dir ≠ [] := by
  rw [Ne, mergedNames_eq_nil_iff]
  unfold schemaNames
  constructor
  · rintro ⟨dir', ⟨⟩, s, hs, source, hread, hne⟩ hnone
    have hnil := hnone s hs
    rw [hread] at hnil
    exact hne hnil
  · intro hsome
    push Not at hsome
    obtain ⟨s, hs, hne⟩ := hsome
    cases hread : t.readText here (dir.below s) with
    | error fault =>
        rw [hread] at hne
        exact absurd rfl hne
    | ok source =>
        rw [hread] at hne
        exact ⟨dir, rfl, s, hs, source, hread, hne⟩

/-- A text does not start in two ways. -/
theorem not_led {lead text : String} (first : String) (h : first.toList <+: text.toList)
    (hlead : ¬ lead.toList <+: first.toList) (hfirst : ¬ first.toList <+: lead.toList) :
    ¬ lead.toList <+: text.toList :=
  fun hled => (List.prefix_or_prefix_of_prefix hled h).elim hlead hfirst

namespace Steps

variable {res : GenerationResult} (s : Steps here r schemaDir w res w')

include s

/-- The warnings about what could not be read come from taking over names, and from nowhere else. -/
theorem mem_warnings {text : String} (h : text ∈ res.warnings) : text ∈ s.renameWarnings ∨
    "No ".toList <+: text.toList ∨ "Skipped ".toList <+: text.toList := by
  rw [s.warnings] at h
  simp only [List.mem_append] at h
  rcases h with ((h | h) | h) | h
  · exact Or.inl h
  · exact Or.inr (Or.inl (no_prefix_of_mem_emptyWarnings h))
  · obtain ⟨k, -, rfl⟩ := List.mem_map.mp h
    exact Or.inr (Or.inr (List.isPrefixOf_iff_prefix.mp (isSkip_repeatWarning k)))
  · exact Or.inr (Or.inl (no_prefix_of_mem_filterWarnings h))

omit s in
theorem renameWarnings_none (s : Steps here r none w res w') : s.renameWarnings = [] := by
  obtain ⟨hpair, -⟩ := pure_eq_ok_iff.mp s.rename
  exact (Prod.mk.inj hpair).2

omit s in
theorem renameWarnings_some (s : Steps here r (some dir) w res w') :
    s.renameWarnings = unreadableFiles w.tree here r.generatedDir dir := by
  obtain ⟨paths, heq⟩ := renames_eq here r dir w
  have hrename := s.rename
  rw [heq] at hrename
  exact (Prod.mk.inj (EStateM.Result.ok.inj hrename).1).2.symm

/-- If no schema declares a name, then no warning is about a module. -/
theorem not_led_of_not_declares (hno : ¬ DeclaresNames w.tree here schemaDir) :
    ∀ text ∈ res.warnings, ¬ "Could not read generated module ".toList <+: text.toList := by
  intro text htext
  rcases s.mem_warnings htext with htext | htext | htext
  · cases schemaDir with
    | none =>
        rw [s.renameWarnings_none] at htext
        exact absurd htext List.not_mem_nil
    | some dir =>
        rw [declaresNames_some_iff, not_not] at hno
        rw [s.renameWarnings_some, unreadableFiles, if_pos hno, List.append_nil] at htext
        obtain ⟨s', -, htext⟩ := List.mem_flatMap.mp htext
        unfold unreadableSchema at htext
        split at htext
        · exact absurd htext List.not_mem_nil
        · -- of the warnings about reading there are only those about schemas
          have hlead : "Could not read proto file ".toList <+: text.toList := by
            rw [List.mem_singleton.mp htext]
            exact led_append _ _ _
          exact not_led _ hlead (by decide) (by decide)
  · exact not_led _ htext (by decide) (by decide)
  · exact not_led _ htext (by decide) (by decide)

end Steps

/-- **A module that cannot be read is always recorded, but not always warned of.** The result has a
warning about it exactly if some schema declares a JSON name; otherwise no warning is about a module.
The warning that is there for a module that could not be parsed is never given. -/
theorem fromModules_unreadable {res : GenerationResult}
    (hm : m ∈ Discovery.modules w.tree here r.generatedDir)
    (hread : w.tree.readText here (r.generatedDir.below m) = .error fault)
    (h : fromModules here r schemaDir w = .ok res w') :
    (moduleWarning (r.generatedDir.below m) fault ∈ res.warnings ↔
      DeclaresNames w.tree here schemaDir) ∧
    (¬ DeclaresNames w.tree here schemaDir → ∀ text ∈ res.warnings,
      ¬ "Could not read generated module ".toList <+: text.toList) ∧
    (∀ text ∈ res.warnings, ¬ "Could not parse ".toList <+: text.toList) ∧
    skipRecord (r.generatedDir.below m) fault ∈ w'.log := by
  obtain ⟨s⟩ := exists_steps h
  refine ⟨⟨fun htold => ?_, fun hdeclares => ?_⟩, s.not_led_of_not_declares, fun text htext => ?_,
    fromModules_records hm hread h⟩
  · refine Classical.byContradiction fun hno => ?_
    exact s.not_led_of_not_declares hno _ htold (led_append _ _ _)
  · rw [s.warnings]
    obtain ⟨dir, hdir, -⟩ := id hdeclares
    obtain rfl : schemaDir = some dir := hdir
    have hunreadable : unreadableModule w.tree here r.generatedDir m =
        [moduleWarning (r.generatedDir.below m) fault] := by
      rw [unreadableModule, hread]
      rfl
    have htold : moduleWarning (r.generatedDir.below m) fault ∈ s.renameWarnings := by
      rw [s.renameWarnings_some, unreadableFiles, if_neg (declaresNames_some_iff.mp hdeclares)]
      refine List.mem_append_right _ (List.mem_flatMap.mpr ⟨m, hm, ?_⟩)
      rw [hunreadable]
      exact List.mem_singleton_self _
    simp [htold]
  · rcases s.mem_warnings htext with htext | htext | htext
    · have hlead := (renames_sameShape s.rename).2 text htext
      exact not_led "Could not read " hlead (by decide) (by decide)
    · exact not_led _ htext (by decide) (by decide)
    · exact not_led _ htext (by decide) (by decide)

/-- A module that is no text, and a schema that declares a name. -/
def garbledWorkspace : Workspace where
  tree :=
    { items := [(["protos"], .directory),
        (["protos", "a.proto"], .file (Text.encode "string first_name = 1 [json_name = \"given\"];\n")),
        (["gen"], .directory), (["gen", "garbled_pb.ts"], .file [0xff])]
      nodup := by decide }

def garbledModule : Path := ⟨"", ["gen", "garbled_pb.ts"]⟩

/-- Without schemas nothing in the result tells of the module, and with the schema there is a
warning. -/
theorem garbled_unreadable : ∃ fault,
    garbledWorkspace.tree.readText [] garbledModule = .error (.decode fault) ∧
      (∃ res w', fromModules [] plainRequest none garbledWorkspace = .ok res w' ∧
        res.warnings = ["No service files found in generated directory gen"] ∧
        skipRecord garbledModule (.decode fault) ∈ w'.log) ∧
      ∃ res w', fromModules [] plainRequest (some ⟨"", ["protos"]⟩) garbledWorkspace = .ok res w' ∧
        moduleWarning garbledModule (.decode fault) ∈ res.warnings := by
  have hm : ["garbled_pb.ts"] ∈ Discovery.modules garbledWorkspace.tree [] plainRequest.generatedDir :=
    by decide +kernel
  have hfault : ∃ fault, garbledWorkspace.tree.readText [] garbledModule = .error (.decode fault) :=
    ⟨⟨0, 1, 0xff, .start⟩, by decide +kernel⟩
  obtain ⟨fault, hread⟩ := hfault
  obtain ⟨res, w', hrun, hwarnings⟩ := exists_ok_of_meets
    (fun res _ => res.warnings == ["No service files found in generated directory gen"])
    (fromModules [] plainRequest none) garbledWorkspace (by decide +kernel)
  obtain ⟨res', w'', hrun', -⟩ := exists_ok_of_meets (fun _ _ => true)
    (fromModules [] plainRequest (some ⟨"", ["protos"]⟩)) garbledWorkspace (by decide +kernel)
  have hdeclares : DeclaresNames garbledWorkspace.tree [] (some ⟨"", ["protos"]⟩) :=
    declaresNames_some_iff.mpr (by decide +kernel)
  obtain ⟨-, -, -, hrecorded⟩ := fromModules_unreadable hm hread hrun
  obtain ⟨htold, -, -, -⟩ := fromModules_unreadable hm hread hrun'
  exact ⟨fault, hread, ⟨res, w', hrun, beq_iff_eq.mp hwarnings, hrecorded⟩, res', w'', hrun',
    htold.mpr hdeclares⟩

end ConnectClients.Generation
