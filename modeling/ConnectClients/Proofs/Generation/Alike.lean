import Mathlib.Data.List.Find
import ConnectClients.Proofs.Files.Leftovers
import ConnectClients.Proofs.Generation.Template

/-!
# Steps of runs on trees that differ

Two trees may differ by what was left in some directories. A step that reads and writes
nothing there ends alike in both, and they still differ by no more after it.
-/

namespace ConnectClients

open Runs
open FileTree (Clear Leftovers Named OnWay Outside SameOutside Tidy)
open Location (along resolve Trail)

variable {here : Location} {tops : List Location} {reached : List Path} {p dir : Path}

/-! ## Writing -/

namespace Output

variable (hhere : Path.up ∉ here)

include hhere

section paths

variable (hway : ∀ l, OnWay here p l → Outside tops l)

include hway

theorem agrees_makeDirectories :
    Agrees (Workspace.Alike (Leftovers here tops reached)) (makeDirectories here p) :=
  Action.agrees_operate
    (FileTree.Operation.agrees_makeDirectories Leftovers.respects hhere hway)

theorem agrees_writeFile (text : String) :
    Agrees (Workspace.Alike (Leftovers here tops reached)) (writeFile here p text) :=
  Action.agrees_operate
    (FileTree.Operation.agrees_writeText Leftovers.respects hhere hway text)

theorem agrees_writeText (text : String) :
    Agrees (Workspace.Alike (Leftovers here tops reached)) (writeText here p text) := by
  have hparent : ∀ l, OnWay here p.parent l → Outside tops l := by
    rintro l ⟨lead, rest, hsegments, rfl⟩
    have hdrop : p.segments.dropLast = lead ++ rest := hsegments
    apply hway
    rcases List.eq_nil_or_concat p.segments with hnil | ⟨dirs, name, hp⟩
    · rw [hnil] at hdrop
      obtain ⟨rfl, rfl⟩ := List.append_eq_nil_iff.mp hdrop.symm
      exact ⟨[], p.segments, rfl, rfl⟩
    · rw [List.concat_eq_append] at hp
      rw [hp, List.dropLast_concat] at hdrop
      exact ⟨lead, rest ++ [name], by rw [hp, hdrop, List.append_assoc], rfl⟩
  exact (agrees_makeDirectories hhere hparent).bind fun _ => agrees_writeFile hhere hway text

end paths

theorem agrees_writeInto (name text : String)
    (hway : ∀ l, OnWay here (dir.child name) l → Outside tops l) :
    Agrees (Workspace.Alike (Leftovers here tops reached)) (writeInto here dir name text) :=
  (agrees_writeFile hhere hway text).bind fun _ => agrees_pure _

theorem agrees_writeTypesIndex (text : String) :
    Agrees (Workspace.Alike (Leftovers here [] [])) (writeTypesIndex here dir text) :=
  (agrees_makeDirectories hhere fun l _ => FileTree.outside_nil l).bind fun _ =>
    agrees_writeInto hhere _ _ fun l _ => FileTree.outside_nil l

/-- Where trees do not differ, the shared module is found or written in both. -/
theorem agrees_writeTransport (text : String) :
    Agrees (Workspace.Alike (Leftovers here [] [])) (writeTransport here dir text) := by
  rw [writeTransport]
  apply Action.agrees_tree_bind
  · intro t t' h
    rw [FileTree.pathExists_same fun l _ => h.same l (FileTree.outside_nil l)]
  · intro t _ _
    split
    · exact agrees_pure _
    · exact (agrees_makeDirectories hhere fun l _ => FileTree.outside_nil l).bind fun _ =>
        agrees_writeInto hhere _ _ fun l _ => FileTree.outside_nil l

end Output

/-! ## Reading what buf reads -/

namespace BufModule

theorem agrees_document (hway : ∀ l, OnWay here p l → Outside tops l) :
    Agrees (Workspace.Alike (Leftovers here tops reached)) (document here p) := by
  rw [document]
  apply Action.agrees_tree_bind
  · intro t t' h
    have hload : Yaml.loadFile t' here p = Yaml.loadFile t here p := by
      rw [Yaml.loadFile, Yaml.loadFile, FileTree.readText_same fun l hl => h.same l (hway l hl)]
    rw [hload]
  · intro t _ _
    split
    · exact agrees_pure _
    · exact agrees_pure _
    · exact (Action.agrees_record _).bind fun _ => agrees_pure _
    · exact (Action.agrees_record _).bind fun _ => agrees_pure _
    · exact agrees_throw _

theorem agrees_dependencies (hway : ∀ l, OnWay here p l → Outside tops l) :
    Agrees (Workspace.Alike (Leftovers here tops reached)) (dependencies here p) := by
  rw [dependencies]
  apply Action.agrees_tree_bind
  · intro t t' h
    rw [FileTree.pathIsFile_same fun l hl => h.same l (hway l hl)]
  · intro t _ _
    split
    · exact agrees_pure _
    · exact (agrees_document hway).bind fun _ => agrees_pure _

/-! ### The module that a directory belongs to -/

theorem isName_fileName : Path.IsName fileName where
  no_slash := by decide
  ne_empty := by decide
  ne_dot := by decide
  ne_up := by decide

section root

variable {start l : Location} (hup : Path.up ∉ start)
  (hstart : ∀ top ∈ tops, ¬ top <+: start) (hl : l <+: start)

include hup hl

theorem resolve_child_fileName (here : Location) :
    resolve here (l.path.child fileName) = l ++ [fileName] := by
  have hno : Path.up ∉ l := fun hmem => hup (hl.subset hmem)
  rw [Location.resolve_child here _ isName_fileName]
  exact congrArg (· ++ [fileName]) (Location.along_of_no_up [] hno)

include hstart

/-- The file of a module is out of the way, unless one of the directories is in its place. -/
theorem outside_of_onWay_file (hplace : l ++ [fileName] ∉ tops) {d : Location}
    (hd : OnWay here (l.path.child fileName) d) : Outside tops d := by
  rcases FileTree.onWay_child isName_fileName hd with ⟨lead, rest, hsegments, rfl⟩ | rfl
  · have happend : l = lead ++ rest := hsegments
    have hle : lead <+: start := (happend ▸ List.prefix_append lead rest).trans hl
    have halong : along [] lead = lead :=
      Location.along_of_no_up [] fun hmem => hup (hle.subset hmem)
    show Outside tops (along [] lead)
    rw [halong]
    exact fun top htop htop' => hstart top htop (htop'.trans hle)
  · have hend : resolve here l.path = l :=
      Location.along_of_no_up [] fun hmem => hup (hl.subset hmem)
    rw [hend]
    intro top htop htop'
    rcases List.prefix_concat_iff.mp htop' with rfl | hle
    · exact hplace htop
    · exact hstart top htop (hle.trans hl)

omit hstart in
/-- A directory is no file, and neither is nothing. -/
theorem not_mem_tops_of_pathIsFile {t : FileTree} (htidy : ∀ top ∈ tops, Tidy t top)
    (hfile : t.pathIsFile here (l.path.child fileName) = true) : l ++ [fileName] ∉ tops := by
  intro hmem
  obtain ⟨octets, hget⟩ := FileTree.exists_file_of_pathIsFile hfile
  rw [resolve_child_fileName hup hl] at hget
  rcases htidy _ hmem with hdir | hnone
  · rw [hdir] at hget
    cases hget
  · rw [hnone _ (List.prefix_refl _)] at hget
    cases hget

end root

theorem rootAbove?_same {t t' : FileTree} {start : Location}
    (h : Leftovers here tops reached t t') (hup : Path.up ∉ start)
    (hstart : ∀ top ∈ tops, ¬ top <+: start) : rootAbove? t' start = rootAbove? t start := by
  refine List.find?_congr fun l hl => ?_
  have hle := Location.mem_upward.mp hl
  by_cases hplace : l ++ [fileName] ∈ tops
  · have hno : ∀ u : FileTree, (∀ top ∈ tops, Tidy u top) →
        u.pathIsFile [] (l.path.child fileName) = false := by
      intro u hu
      rw [Bool.eq_false_iff]
      exact fun hfile => not_mem_tops_of_pathIsFile hup hle hu hfile hplace
    rw [hno t fun top htop => (h.tidy top htop).1, hno t' fun top htop => (h.tidy top htop).2]
  · apply FileTree.pathIsFile_same
    exact fun d hd => h.same d (outside_of_onWay_file hup hstart hle hplace hd)

theorem agree_find? {w w' : Workspace} (h : Workspace.Alike (Leftovers here tops reached) w w')
    (hhere : Path.up ∉ here) (hstart : ∀ top ∈ tops, ¬ top <+: resolve here dir) :
    Agree (Workspace.Alike (Leftovers here tops reached)) (fun found w w' =>
      Workspace.Alike (Leftovers here tops reached) w w' ∧ ∀ m ∈ found, ∀ l,
        OnWay here (m.root.path.child fileName) l → Outside tops l)
      (find? here dir w) (find? here dir w') := by
  have hup := FileTree.up_not_mem_resolve hhere dir
  rw [find?]
  apply Action.agree_tree_bind
  rw [rootAbove?_same h.tree hup hstart]
  cases hroot : rootAbove? w.tree (resolve here dir) with
  | none => exact .ok ⟨h, by simp⟩
  | some root =>
      -- the file of the module is there, so that no directory is in its place
      have hle : root <+: resolve here dir := Location.mem_upward.mp (List.mem_of_find?_eq_some hroot)
      have hfile : w.tree.pathIsFile [] (root.path.child fileName) = true := by
        have hfound := List.find?_some hroot
        exact hfound
      have hplace : root ++ [fileName] ∉ tops :=
        not_mem_tops_of_pathIsFile hup hle (fun top htop => (h.tree.tidy top htop).1) hfile
      have hway : ∀ l, OnWay here (root.path.child fileName) l → Outside tops l :=
        fun l => outside_of_onWay_file hup hstart hle hplace
      have hfound : ∀ schemaDir, ∀ m ∈ some (BufModule.mk root schemaDir), ∀ l,
          OnWay here (m.root.path.child fileName) l → Outside tops l := by
        intro schemaDir m hm
        rw [← Option.mem_some.mp hm]
        exact hway
      apply (agrees_document hway w w' h).bind
      intro fields w₁ w₁' h₁
      cases namedPath? fields with
      | none => exact .ok ⟨h₁, hfound none⟩
      | some text =>
          dsimp only
          split
          · apply (Action.agrees_record _ w₁ w₁' h₁).bind
            exact fun _ _ _ h₂ => .ok ⟨h₂, hfound none⟩
          · exact .ok ⟨h₁, hfound _⟩

end BufModule

/-! ## Running buf -/

theorem FileTree.Leftovers.plantAll {files : List (Location × List UInt8)} {t t' : FileTree}
    (h : Leftovers here tops reached t t')
    (hfiles : ∀ f ∈ files, Outside tops f.1 ∧ Path.up ∉ f.1 ∧ ∀ q ∈ reached, ¬ Trail here q f.1) :
    Leftovers here tops reached (t.plantAll files) (t'.plantAll files) := by
  induction files generalizing t t' with
  | nil => exact h
  | cons f rest ih =>
      obtain ⟨hout, hup, htrail⟩ := hfiles f List.mem_cons_self
      exact ih (h.plant hout hup htrail f.2) fun f' hf' => hfiles f' (List.mem_cons_of_mem f hf')

namespace BufRun

theorem agrees_run {outcome : BufOutcome} {template : Path} (executable : String)
    (hway : ∀ l, OnWay here template l → Outside tops l)
    (hfiles : ∀ f ∈ outcome.files, Outside tops f.1 ∧ Path.up ∉ f.1 ∧
      ∀ q ∈ reached, ¬ Trail here q f.1) :
    Agrees (Workspace.Alike (Leftovers here tops reached))
      (run here outcome template dir executable) := by
  unfold run
  dsimp only
  refine (Action.agrees_record _).bind fun _ => ?_
  apply Action.agrees_tree_bind
  · intro t t' h
    rw [FileTree.readOctets_same fun l hl => h.same l (hway l hl)]
  · intro t _ _
    refine (agrees_modify fun w w' h => ⟨h.tree, h.log, congrArg (· ++ [_]) h.calls⟩).bind
      fun _ => ?_
    cases outcome with
    | notStarted fault => exact agrees_throw _
    | ended status output errors files =>
        refine (agrees_modify fun w w' h =>
          ⟨h.tree.plantAll hfiles, h.log, h.calls⟩).bind fun _ => ?_
        have hreport : Agrees (Workspace.Alike (Leftovers here tops reached)) (do
            if !errors.isEmpty && !Text.isInfix harmless.toList errors.toList then
              Action.record (.warning ("buf generate reported: " ++ trimText errors))
            return output) := by
          split
          · exact (Action.agrees_record _).bind fun _ => agrees_pure _
          · exact agrees_pure _
        split
        · exact (agrees_throw _).bind fun _ => hreport
        · exact hreport

end BufRun

namespace Generation

theorem agrees_writeTemplate {schemaDir file : Path} {outputDir : String} {modules : List String}
    {goPrefix : Option String} (hhere : Path.up ∉ here)
    (hschemas : ∀ top ∈ tops, ¬ top <+: resolve here schemaDir)
    (hway : ∀ l, OnWay here file l → Outside tops l) :
    Agrees (Workspace.Alike (Leftovers here tops reached))
      (writeTemplate here schemaDir outputDir file modules goPrefix) := by
  have hwrite : ∀ text : String, Agrees (Workspace.Alike (Leftovers here tops reached)) (do
      Output.writeText here file text
      return text) :=
    fun text => (Output.agrees_writeText hhere hway text).bind fun _ => agrees_pure text
  intro w w' h
  rw [writeTemplate]
  apply (BufModule.agree_find? h hhere hschemas).bind
  rintro found w₁ w₁' ⟨h₁, hfound⟩
  cases found with
  | none => exact hwrite _ w₁ w₁' h₁
  | some m =>
      refine ((BufModule.agrees_dependencies (hfound m rfl)).bind fun deps => ?_) w₁ w₁' h₁
      exact (Action.agrees_record _).bind fun _ => hwrite _

/-! ## Renaming -/

variable {names : List (String × String)} {r : Request}

theorem agrees_declaredNames {schemaDir : Path} (hschemas : Clear here schemaDir tops) :
    Agrees (Workspace.Alike (Leftovers here tops reached)) (declaredNames here schemaDir) := by
  rw [declaredNames]
  apply Action.agrees_tree_bind
  · intro t t' h
    have hlist : Discovery.schemas t' here schemaDir = Discovery.schemas t here schemaDir :=
      FileTree.listFiles_same hschemas h.same
    rw [hlist]
    refine congrArg pure (List.foldl_ext _ _ _ ?_)
    rintro ⟨names, warnings⟩ m hm
    dsimp only
    rw [FileTree.readText_below_same hschemas h.same (h.named.up_not_mem_of_listed hm)]
  · exact fun _ _ _ => agrees_pure _

section modules

variable (hhere : Path.up ∉ here) (hdir : Clear here dir tops)

include hhere hdir

theorem agrees_renameIn {m : List String} (hm : Path.up ∉ m) :
    Agrees (Workspace.Alike (Leftovers here tops reached)) (renameIn here dir names m) := by
  rw [renameIn]
  apply Action.agrees_tree_bind
  · intro t t' h
    rw [FileTree.readText_below_same hdir h.same hm]
  · intro t _ _
    split
    · exact agrees_pure _
    · refine (Action.agrees_ofExcept _ _).bind ?_
      rintro ⟨renamed, modified⟩
      cases modified with
      | false => exact agrees_pure _
      | true =>
          exact (Output.agrees_writeText hhere (fun l => hdir.onWay_below hm) renamed).bind
            fun _ => agrees_pure _

theorem agrees_renameAll {ms : List (List String)} (hms : ∀ m ∈ ms, Path.up ∉ m) :
    Agrees (Workspace.Alike (Leftovers here tops reached)) (renameAll here dir names ms) := by
  induction ms with
  | nil => exact agrees_pure _
  | cons m rest ih =>
      rw [renameAll]
      refine (agrees_renameIn hhere hdir (hms m List.mem_cons_self)).bind ?_
      rintro ⟨paths, warnings⟩
      refine (ih fun m' hm' => hms m' (List.mem_cons_of_mem m hm')).bind ?_
      rintro ⟨morePaths, moreWarnings⟩
      exact agrees_pure _

theorem agrees_applyJsonNames {schemaDir : Path} (hschemas : Clear here schemaDir tops) :
    Agrees (Workspace.Alike (Leftovers here tops reached))
      (applyJsonNames here schemaDir dir) := by
  rw [applyJsonNames]
  refine (agrees_declaredNames hschemas).bind ?_
  rintro ⟨names, warnings⟩
  dsimp only
  split
  · exact agrees_pure _
  · apply Action.agrees_tree_bind
    · intro t t' h
      have hlist : Discovery.modules t' here dir = Discovery.modules t here dir :=
        FileTree.listFiles_same hdir h.same
      rw [hlist]
    · intro t _ h
      refine (agrees_renameAll hhere hdir fun m hm => h.named.up_not_mem_of_listed hm).bind ?_
      rintro ⟨paths, more⟩
      exact agrees_pure _

end modules

/-! ## Services -/

theorem agrees_serviceFiles (hdir : Clear here dir tops) :
    Agrees (Workspace.Alike (Leftovers here tops reached)) (Discovery.serviceFiles here dir) := by
  intro w w' h
  rw [Discovery.serviceFiles]
  apply Action.agree_tree_bind
  have hlist : Discovery.modules w'.tree here dir = Discovery.modules w.tree here dir :=
    FileTree.listFiles_same hdir h.tree.same
  rw [hlist]
  refine agree_filterM ?_ h
  intro m hm w₁ w₁' h₁
  rw [FileTree.readText_below_same hdir h.tree.same (h.tree.named.up_not_mem_of_listed hm)]
  cases w.tree.readText here (dir.below m) with
  | ok content => exact agrees_pure _ w₁ w₁' h₁
  | error fault => exact ((Action.agrees_record _).bind fun _ => agrees_pure _) w₁ w₁' h₁

theorem agrees_collectServices (hdir : Clear here dir tops) :
    Agrees (Workspace.Alike (Leftovers here tops reached)) (collectServices here dir) := by
  intro w w' h
  rw [collectServices]
  have hlisted : ∀ files w₁, Discovery.serviceFiles here dir w = .ok files w₁ →
      ∀ m ∈ files, Path.up ∉ m := by
    intro files w₁ hrun m hm
    obtain ⟨rfl, -⟩ := Discovery.serviceFiles_of_ok hrun
    exact h.tree.named.up_not_mem_of_listed (List.mem_of_mem_filter hm)
  apply ((agrees_serviceFiles hdir w w' h).and_of_ok hlisted).bind
  rintro files w₁ w₁' ⟨h₁, hfiles⟩
  apply Action.agree_tree_bind
  refine agree_pure_of_eq (List.foldl_ext _ _ _ ?_) h₁
  rintro ⟨services, warnings⟩ m hm
  dsimp only
  rw [FileTree.readText_below_same hdir h₁.tree.same (hfiles m (List.mem_of_mem_filter hm))]

theorem typeFiles_same {t t' : FileTree} (hdir : Clear here dir tops)
    (hsame : SameOutside tops t t') :
    Discovery.typeFiles t' here dir = Discovery.typeFiles t here dir := by
  have hlist : Discovery.modules t' here dir = Discovery.modules t here dir :=
    FileTree.listFiles_same hdir hsame
  rw [Discovery.typeFiles, Discovery.typeFiles, hlist]

theorem agrees_writeClients (hhere : Path.up ∉ here) (services : List Service)
    (written : List ClientEntry) (warnings : List String) :
    Agrees (Workspace.Alike (Leftovers here [] []))
      (writeClients here r services written warnings) := by
  induction services generalizing written warnings with
  | nil => exact agrees_pure _
  | cons s rest ih =>
      rw [writeClients]
      refine (Action.agrees_ofExcept _ _).bind fun passes => ?_
      split
      · exact (Action.agrees_record _).bind fun _ => ih written warnings
      · dsimp only
        split
        · exact ih written _
        · refine Agrees.bind ?_ fun _ => ih _ warnings
          exact Output.agrees_writeInto hhere _ _ fun l _ => FileTree.outside_nil l

end Generation

end ConnectClients
