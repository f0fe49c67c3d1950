import ConnectClients.Proofs.Files.Plant
import ConnectClients.Proofs.Files.Reset
import ConnectClients.Proofs.Generation.Contents
import ConnectClients.Proofs.Generation.Scope
import ConnectClients.Proofs.Yaml.Readers

/-!
# The template does not stay

A template is written for one run of buf and removed when the run is over, by the path
that it was written to. So what matters is that this path still leads to the template by
then, or that the template is gone.
-/

namespace ConnectClients

open Runs
open FileTree (Grown OnWay Passes Touch Touched isBelow)
open Location (along start resolve Through)

/-- The files that buf writes. -/
def BufOutcome.files : BufOutcome → List (Location × List UInt8)
  | .notStarted _ => []
  | .ended _ _ _ files => files

namespace FileTree

/-- The files that were planted one after the other. -/
def plantAll (files : List (Location × List UInt8)) (t : FileTree) : FileTree :=
  files.foldl (fun t f => t.plant f.1 f.2) t

end FileTree

/-- However a run ends, it has recorded its call, and the files that buf wrote are planted. -/
theorem BufRun.run_leaves (here : Location) (outcome : BufOutcome) (template dir : Path)
    (executable : String) (w : Workspace) :
    Ends (run here outcome template dir executable) w
      (fun w' => w'.tree = w.tree.plantAll outcome.files ∧ w'.calls = w.calls ++
        [⟨[executable, "generate", "--template", template.toString], dir,
          (w.tree.readOctets here template).toOption⟩])
      fun _ w' => w'.tree = w.tree.plantAll outcome.files ∧ w'.calls = w.calls ++
        [⟨[executable, "generate", "--template", template.toString], dir,
          (w.tree.readOctets here template).toOption⟩] := by
  unfold run
  dsimp only
  apply Action.ends_record_bind
  apply Action.ends_tree_bind
  apply ends_modify_bind
  cases outcome with
  | notStarted fault => exact ends_throw ⟨rfl, rfl⟩
  | ended status output errors files =>
      apply ends_modify_bind
      split
      · exact ends_throw_bind ⟨rfl, rfl⟩
      · split
        · exact Action.ends_record_bind (ends_pure ⟨rfl, rfl⟩)
        · exact ends_pure ⟨rfl, rfl⟩

namespace FileTree

/-! ## Paths that lead to a file, if one is there -/

/-- A file that is at the end of the path can be reached: the path passes, or no file is
there and the path will pass once one is planted. -/
def Reachable (here : Location) (p : Path) (t : FileTree) : Prop :=
  t.Passes (start here p) p.segments ∨
    (Path.up ∉ p.segments ∧ ∀ found, t.get? (resolve here p) ≠ some (.file found))

variable {here : Location} {p dir : Path} {t t' : FileTree}

theorem plant_reachable {first : FileTree} (hfirst : first.Passes (start here p) p.segments)
    (h : t.Reachable here p) {f : Location × List UInt8} (hf : ¬ Through here p f.1) :
    (t.plant f.1 f.2).Reachable here p := by
  rcases h with hpasses | ⟨hup, hno⟩
  · left
    apply passes_of_through hpasses
    intro l hl
    apply plant_directory (hpasses.directory hl)
    rintro rfl
    exact hf hl
  · by_cases hself : f.1 = resolve here p
    · -- the file is planted with everything on the way, as the path only leads downwards
      left
      apply passes_of_through hfirst
      intro l hl
      rw [hself]
      exact get?_plant_above (isBelow_of_through hup hl) f.2 t
    · exact Or.inr ⟨hup, plant_no_file hno (Ne.symm hself)⟩

theorem plantAll_reachable {first : FileTree} (hfirst : first.Passes (start here p) p.segments)
    {files : List (Location × List UInt8)} (hfiles : ∀ f ∈ files, ¬ Through here p f.1)
    (h : t.Reachable here p) : (t.plantAll files).Reachable here p := by
  induction files generalizing t with
  | nil => exact h
  | cons f rest ih =>
      exact ih (fun f' hf' => hfiles f' (List.mem_cons_of_mem _ hf'))
        (plant_reachable hfirst h (hfiles f List.mem_cons_self))

/-- The path does not run through what is in a directory, or it has no two dots. -/
def Spared (here : Location) (p dir : Path) : Prop :=
  Path.up ∉ p.segments ∨ ∀ l, Through here p l → ¬ isBelow (resolve here dir) l = true

theorem Spared.cases (h : Spared here p dir) :
    (∀ l, Through here p l → ¬ isBelow (resolve here dir) l = true) ∨
      (Path.up ∉ p.segments ∧ isBelow (resolve here dir) (resolve here p) = true) := by
  rcases h with hup | hout
  · by_cases hthrough : ∃ l, Through here p l ∧ isBelow (resolve here dir) l = true
    · -- a path without two dots that runs through the directory ends in it
      obtain ⟨l, hl, hbelow⟩ := hthrough
      exact Or.inr ⟨hup, isBelow_trans hbelow (isBelow_of_through hup hl)⟩
    · left
      intro l hl hbelow
      exact hthrough ⟨l, hl, hbelow⟩
  · exact Or.inl hout

/-- Resetting a directory leaves a path that passes reachable. -/
theorem reset_reachable (hpasses : t.Passes (start here p) p.segments)
    (hspared : Spared here p dir) : Ends (Operation.resetDirectory here dir) t (Reachable here p)
      fun _ => Reachable here p := by
  have hgrown : ∀ {new : Location → Prop} {t'}, Grown new t t' → Reachable here p t' :=
    fun h => Or.inl (hpasses.mono fun l => h.directory)
  constructor
  · intro _ t' h
    obtain ⟨hdir, ⟨-, -, -, hcleared⟩ | ⟨-, hsame⟩⟩ := Operation.resetDirectory_of_ok h
    · rcases hspared.cases with hout | ⟨hup, hbelow⟩
      · left
        apply passes_of_through hpasses
        intro l hl
        by_cases hself : l = resolve here dir
        · rw [hself]
          exact (pathIsDirectory_iff.mp hdir).2
        · have hapart : ¬ resolve here dir <+: l :=
            fun hle => hout l hl (isBelow_iff.mpr ⟨hle, hself⟩)
          apply hcleared.directory
          rw [get?_cleared_apart hapart, hpasses.directory hl]
      · refine Or.inr ⟨hup, fun found => ?_⟩
        obtain ⟨rest, hrest, hplace⟩ := exists_of_isBelow hbelow
        have hgone : (cleared t (resolve here dir)).get? (resolve here p) = none := by
          rw [hplace]
          exact get?_cleared_below hrest
        rcases hcleared (resolve here p) with heq | ⟨-, hmade, -⟩
        · rw [heq, hgone]
          simp
        · rw [hmade]
          simp
    · exact hgrown hsame
  · intro _ t' h
    rcases Operation.resetDirectory_error h with hsame | rfl
    · exact hgrown hsame
    · rcases hspared.cases with hout | ⟨hup, hbelow⟩
      · left
        apply passes_of_through hpasses
        intro l hl
        rw [get?_clear_of_not (hout l hl), hpasses.directory hl]
      · refine Or.inr ⟨hup, fun found => ?_⟩
        rw [get?_clear_below hbelow]
        simp

end FileTree

namespace Generation

/-! ## The template -/

/-- The file of the template of a run. -/
def templatePath (here : Location) (b : BufRequest) : Path :=
  (b.directory.getD here.path).child temporaryName

theorem isName_temporaryName : Path.IsName temporaryName where
  no_slash := by decide
  ne_empty := by decide
  ne_dot := by decide
  ne_up := by decide

variable {here : Location} {r : Request} {b : BufRequest}

/-- A text is written where its path leads, and directories may have been made on the
way. -/
theorem writeText_of_ok {file : Path} {text : String} {u : Unit} {w w' : Workspace}
    (h : Output.writeText here file text w = .ok u w') :
    ∃ t, FileTree.Grown (OnWay here file.parent) w.tree t ∧
      t.pathIsDirectory here file.parent = true ∧ t.Passes (start here file) file.segments ∧
      t.get? (resolve here file) ≠ some .directory ∧
      w'.tree = t.put (resolve here file) (.file (Text.encode text)) := by
  rw [Output.writeText, bind_eq_ok_iff] at h
  obtain ⟨_, w₁, hmake, h⟩ := h
  obtain ⟨t, hdirs, rfl⟩ := Action.operate_eq_ok_iff.mp hmake
  obtain ⟨t', hfile, rfl⟩ := Action.operate_eq_ok_iff.mp h
  obtain ⟨hgrown, hthere⟩ := FileTree.Operation.makeDirectories_grown hdirs
  obtain ⟨hpasses, hno, rfl⟩ := FileTree.Operation.writeText_eq_ok_iff.mp hfile
  exact ⟨t, hgrown, hthere, hpasses, hno, rfl⟩

/-- The path of a file that was written passes. -/
theorem passes_of_writeText {file : Path} {text : String} {u : Unit} {w w' : Workspace}
    (h : Output.writeText here file text w = .ok u w') :
    w'.tree.Passes (start here file) file.segments := by
  obtain ⟨t, -, -, hpasses, hno, htree⟩ := writeText_of_ok h
  rw [htree]
  apply FileTree.passes_of_through hpasses
  intro l hl
  have hdir := hpasses.directory hl
  have hne : l ≠ resolve here file := by
    rintro rfl
    exact hno hdir
  rw [FileTree.get?_put_of_ne hne, hdir]

/-- All that a template does to the files is that it is written. It is one for the given output. -/
theorem writeText_of_writeTemplate {schemaDir file : Path} {outputDir text : String}
    {modules : List String} {goPrefix : Option String} {w w' : Workspace}
    (h : writeTemplate here schemaDir outputDir file modules goPrefix w = .ok text w') :
    ∃ w₁ u, w₁.tree = w.tree ∧ Output.writeText here file text w₁ = .ok u w' ∧
      ∃ inputDir deps, text = (GenTemplate.build outputDir inputDir deps goPrefix).render := by
  rw [writeTemplate, bind_eq_ok_iff] at h
  obtain ⟨found, w₁, hfound, h⟩ := h
  have htree := BufModule.tree_of_find? hfound
  cases found with
  | none =>
      obtain ⟨⟨input, deps⟩, w₂, hinput, hrest⟩ := bind_eq_ok_iff.mp h
      obtain ⟨u, w₃, hwrite, hdone⟩ := bind_eq_ok_iff.mp hrest
      obtain ⟨-, rfl⟩ := pure_eq_ok_iff.mp hinput
      obtain ⟨rfl, rfl⟩ := pure_eq_ok_iff.mp hdone
      exact ⟨w₂, u, htree, hwrite, _, _, rfl⟩
  | some m =>
      obtain ⟨deps, w₂, hdeps, hrest⟩ := bind_eq_ok_iff.mp h
      obtain ⟨_, w₃, hrecord, hrest⟩ := bind_eq_ok_iff.mp hrest
      obtain ⟨⟨input, all⟩, w₄, hinput, hrest⟩ := bind_eq_ok_iff.mp hrest
      obtain ⟨u, w₅, hwrite, hdone⟩ := bind_eq_ok_iff.mp hrest
      obtain ⟨-, rfl⟩ := pure_eq_ok_iff.mp hinput
      obtain ⟨rfl, rfl⟩ := pure_eq_ok_iff.mp hdone
      have hsame : w₄.tree = w₂.tree := by rw [Action.record_eq_ok_iff.mp hrecord]
      exact ⟨w₄, u, hsame.trans ((BufModule.tree_of_dependencies hdeps).trans htree), hwrite, _, _,
        rfl⟩

theorem passes_of_writeTemplate {schemaDir file : Path} {outputDir text : String}
    {modules : List String} {goPrefix : Option String} {w w' : Workspace}
    (h : writeTemplate here schemaDir outputDir file modules goPrefix w = .ok text w') :
    w'.tree.Passes (start here file) file.segments := by
  obtain ⟨w₁, u, -, hwrite, -⟩ := writeText_of_writeTemplate h
  exact passes_of_writeText hwrite

/-- No output is written in the place of a template. -/
theorem not_isOutput_template (l : Location) : ¬ r.IsOutput here (l ++ [temporaryName]) := by
  rintro (⟨dir, name, -, hl, hname⟩ | hl)
  · have heq : temporaryName = name := by
      have hlast := congrArg List.getLast? hl
      rw [List.getLast?_concat, List.getLast?_concat] at hlast
      exact Option.some.inj hlast
    subst heq
    rcases hname with hindex | ⟨entry, hclient⟩
    · exact absurd hindex (by decide)
    · have hsuffix : ".client.ts".toList <:+ temporaryName.toList := by
        rw [hclient, ClientEntry.fileName, String.toList_append]
        exact List.suffix_append _ _
      exact absurd hsuffix (by decide)
  · have hlast := congrArg List.getLast? hl
    rw [Request.transportAt, List.getLast?_concat, List.getLast?_concat] at hlast
    exact absurd (Option.some.inj hlast) (by decide)

theorem no_template_of_touched {ms : List String → Prop} {t t' : FileTree} {l : Location}
    (h : Touched (r.scope here ms) t t')
    (hno : ∀ found, t.get? (l ++ [temporaryName]) ≠ some (.file found)) (found : List UInt8) :
    t'.get? (l ++ [temporaryName]) ≠ some (.file found) := by
  intro hfile
  have htouch := h (l ++ [temporaryName])
  rw [hfile] at htouch
  generalize t.get? (l ++ [temporaryName]) = before at hno htouch
  cases htouch with
  | same => exact hno found rfl
  | written hwritten hfree => exact not_isOutput_template l hwritten
  | rewritten => exact hno _ rfl

/-- Once the template is written, the run ends without a file in its place, however it
ends. Its path must not run through the directory of the modules and out of it again, and
buf must not put a file in the place of a directory on the way. -/
theorem fromSchemas_removes {outcome : BufOutcome} {schemaDir : Path} {w w₁ : Workspace}
    {text : String}
    (hwrite : writeTemplate here schemaDir r.generatedDir.toString (templatePath here b) b.modules
      b.goPrefix w = .ok text w₁)
    (hspared : FileTree.Spared here (templatePath here b) r.generatedDir)
    (hfiles : ∀ f ∈ outcome.files, ¬ Through here (templatePath here b) f.1) :
    Ends (fromSchemas here outcome r schemaDir b) w
      (fun w' => ∀ found, w'.tree.get? (resolve here (templatePath here b)) ≠ some (.file found))
      fun _ w' => ∀ found,
        w'.tree.get? (resolve here (templatePath here b)) ≠ some (.file found) := by
  have hpasses := passes_of_writeTemplate hwrite
  have hplace : resolve here (templatePath here b) =
      resolve here (b.directory.getD here.path) ++ [temporaryName] :=
    Location.resolve_child here _ isName_temporaryName
  have hremove : ∀ w₂ : Workspace, w₂.tree.Reachable here (templatePath here b) →
      Ends (Action.operate .os (FileTree.Operation.removeFile here (templatePath here b))) w₂
        (fun w' => ∀ found, w'.tree.get? (resolve here (templatePath here b)) ≠ some (.file found))
        fun _ w' => ∀ found,
          w'.tree.get? (resolve here (templatePath here b)) ≠ some (.file found) := by
    intro w₂ hreachable
    apply Action.ends_operate
    have hbefore := hreachable.imp_right And.right
    exact (FileTree.Operation.removeFile_ends here _ w₂.tree).mono
      (fun _ h => h.no_file hbefore) fun _ _ h => h.no_file hbefore
  rw [fromSchemas]
  apply ends_bind_of_ok hwrite
  -- that its path is reachable carries the template from its writing to its removal
  refine Ends.bind (Ends.tryCatch (?_ : Ends _ w₁
    (fun w' => w'.tree.Reachable here (templatePath here b))
    fun _ w' => w'.tree.Reachable here (templatePath here b)) ?_) ?_
  · have hreset : Ends (Output.reset here r.generatedDir) w₁
        (fun w' => w'.tree.Reachable here (templatePath here b))
        fun _ w' => w'.tree.Reachable here (templatePath here b) :=
      Action.ends_operate (FileTree.reset_reachable hpasses hspared)
    apply hreset.bind
    intro _ w₂ hreachable
    have hplanted := FileTree.plantAll_reachable hpasses hfiles hreachable
    have hrun : Ends (BufRun.run here outcome (templatePath here b) (b.directory.getD here.path)
        b.executable) w₂ (fun w' => w'.tree.Reachable here (templatePath here b))
        fun _ w' => w'.tree.Reachable here (templatePath here b) := by
      refine (BufRun.run_leaves here outcome _ _ _ w₂).mono ?_ ?_
      · rintro w' ⟨heq, -⟩
        rw [heq]
        exact hplanted
      · rintro _ w' ⟨heq, -⟩
        rw [heq]
        exact hplanted
    exact hrun.bind fun _ w₃ h => ends_pure h
  · intro failure w₂ hreachable
    exact (hremove w₂ hreachable).bind fun _ w₃ h => ends_throw h
  · intro _ w₂ hreachable
    apply (hremove w₂ hreachable).bind
    intro _ w₃ hno
    rw [hplace] at hno ⊢
    exact (fromModules_ends here r (some schemaDir) w₃).mono
      (fun w' h => no_template_of_touched h hno) fun _ w' h => no_template_of_touched h hno

/-- A workspace with a schema. -/
def schemaWorkspace : Workspace where
  tree :=
    { items := [(["protos"], .directory), (["protos", "a.proto"], .file [])]
      nodup := by decide }

/-- A run of buf in a directory of its own. -/
def besideRequest : BufRequest where
  directory := some ⟨"", ["wd"]⟩

/-- If buf cannot be started, the template is removed. -/
theorem beside_fromSchemas_removes : ∃ failure w',
    fromSchemas [] (.notStarted .notFound) plainRequest ⟨"", ["protos"]⟩ besideRequest
      schemaWorkspace = .error failure w' ∧
      ∀ found, w'.tree.get? ["wd", temporaryName] ≠ some (.file found) := by
  obtain ⟨text, w₁, hwrite, -⟩ := exists_ok_of_meets (fun _ _ => true)
    (writeTemplate [] ⟨"", ["protos"]⟩ plainRequest.generatedDir.toString
      (templatePath [] besideRequest) besideRequest.modules besideRequest.goPrefix)
    schemaWorkspace (by decide +kernel)
  have hspared : FileTree.Spared [] (templatePath [] besideRequest) plainRequest.generatedDir :=
    Or.inl (by decide)
  have hends := fromSchemas_removes hwrite hspared
    (fun f hf => absurd hf List.not_mem_nil : ∀ f ∈ (BufOutcome.notStarted .notFound).files, _)
  obtain ⟨failure, w', hrun, -⟩ := exists_error_of_meets (fun _ _ => true)
    (fromSchemas [] (.notStarted .notFound) plainRequest ⟨"", ["protos"]⟩ besideRequest)
    schemaWorkspace (by decide +kernel)
  exact ⟨failure, w', hrun, hends.of_error hrun⟩

-- The path of this template runs through a directory that is gone when the template is removed.
example : (match fromSchemas [] (.notStarted .notFound) plainRequest ⟨"", ["protos"]⟩
      { directory := some ⟨"", ["gen", "sub", "..", "..", "wd"]⟩ } schemaWorkspace with
    | .ok _ _ => none
    | .error _ w' => w'.tree.get? ["wd", temporaryName]).isSome = true := by
  decide +kernel

end Generation

end ConnectClients
