import ConnectClients.Proofs.Generation.Template

/-!
# Runs in which buf fails

If buf cannot be started, or ends with an error, the run ends with that fault. By then
the template is written and removed again, the directory of the modules is emptied, and
the directories on the way to it and to the template are there; all else is what buf has
written itself. So the clients, the types, the shared module and the schemas are what
they were.
-/

namespace ConnectClients

open Runs
open FileTree (Kept LeadsTo OnWay Spared isBelow)
open Location (along start resolve Through)

/-- Why a run of buf counts as failed, if it does. -/
def BufOutcome.fault? (template : Path) (executable : String) : BufOutcome → Option BufFault
  | .notStarted fault => some (.notStarted executable fault)
  | .ended status output errors _ =>
    if status = 0 then none
    else some (.failed template
      (BufRun.failureText [executable, "generate", "--template", template.toString] status output
        errors))

theorem BufRun.run_of_fault {outcome : BufOutcome} {template : Path} {executable : String}
    {fault : BufFault} (h : outcome.fault? template executable = some fault) (here : Location)
    (dir : Path) (w : Workspace) :
    ∃ w', run here outcome template dir executable w = .error (.buf fault) w' ∧
      w'.tree = w.tree.plantAll outcome.files := by
  have hfails : ∃ w', run here outcome template dir executable w = .error (.buf fault) w' := by
    cases outcome with
    | notStarted osFault =>
        obtain rfl := Option.some.inj h
        exact ⟨_, rfl⟩
    | ended status output errors files =>
        rw [BufOutcome.fault?] at h
        split at h
        · cases h
        · rename_i hstatus
          obtain rfl := Option.some.inj h
          apply Exists.intro
          rw [run]
          dsimp only
          rw [Action.record_bind_eq, Action.tree_bind_eq, modify_bind_eq, modify_bind_eq,
            if_pos hstatus]
          exact bind_eq_of_error rfl
  obtain ⟨w', hrun⟩ := hfails
  exact ⟨w', hrun, ((run_leaves here outcome template dir executable w).of_error hrun).1⟩

namespace FileTree

/-! ## What buf does to a location -/

variable {t t' : FileTree} {d : Location} {files : List (Location × List UInt8)}

theorem plantAll_congr (h : t.get? d = t'.get? d) :
    (t.plantAll files).get? d = (t'.plantAll files).get? d := by
  induction files generalizing t t' with
  | nil => exact h
  | cons f rest ih => exact ih (plant_congr h)

theorem get?_plantAll_of_not (h : ∀ f ∈ files, ¬ d <+: f.1) :
    (t.plantAll files).get? d = t.get? d := by
  induction files generalizing t with
  | nil => rfl
  | cons f rest ih =>
      refine (ih fun f' hf' => h f' (List.mem_cons_of_mem _ hf')).trans ?_
      exact get?_plant_of_not (h f List.mem_cons_self) f.2 t

theorem plantAll_directory (hdir : t.get? d = some .directory) (h : ∀ f ∈ files, d ≠ f.1) :
    (t.plantAll files).get? d = some .directory := by
  induction files generalizing t with
  | nil => exact hdir
  | cons f rest ih =>
      exact ih (plant_directory hdir (h f List.mem_cons_self) f.2)
        fun f' hf' => h f' (List.mem_cons_of_mem _ hf')

/-- A file stays a file unless buf puts something below it. -/
theorem plantAll_file {octets : List UInt8} (hfile : t.get? d = some (.file octets))
    (h : ∀ f ∈ files, ¬ isBelow d f.1 = true) :
    ∃ octets', (t.plantAll files).get? d = some (.file octets') := by
  induction files generalizing t octets with
  | nil => exact ⟨octets, hfile⟩
  | cons f rest ih =>
      have hrest : ∀ f' ∈ rest, ¬ isBelow d f'.1 = true :=
        fun f' hf' => h f' (List.mem_cons_of_mem _ hf')
      by_cases hself : d = f.1
      · have hroot : d ≠ [] := ne_nil_of_file hfile
        refine ih (?_ : (t.plant f.1 f.2).get? d = some (.file f.2)) hrest
        rw [hself] at hroot ⊢
        exact get?_plant_self hroot f.2 t
      · have hnot : ¬ d <+: f.1 := fun hlead =>
          h f List.mem_cons_self (isBelow_iff.mpr ⟨hlead, Ne.symm hself⟩)
        exact ih ((get?_plant_of_not hnot f.2 t).trans hfile) hrest

end FileTree

namespace Generation

/-! ## The way to the template -/

/-- The directory that buf runs in. -/
def workingDir (here : Location) (b : BufRequest) : Path := b.directory.getD here.path

def templateAt (here : Location) (b : BufRequest) : Location := resolve here (templatePath here b)

variable {here : Location} {r : Request} {b : BufRequest} {l : Location}

theorem templateAt_eq : templateAt here b = resolve here (workingDir here b) ++ [temporaryName] :=
  Location.resolve_child here (workingDir here b) isName_temporaryName

theorem parent_templatePath : (templatePath here b).parent = workingDir here b := by
  rw [templatePath, Path.child_of_isName _ isName_temporaryName, Path.parent, List.dropLast_concat]
  rfl

theorem through_templatePath_iff :
    Through here (templatePath here b) l ↔ OnWay here (workingDir here b) l := by
  have hpath : templatePath here b =
      ⟨(workingDir here b).root, (workingDir here b).segments ++ [temporaryName]⟩ :=
    Path.child_of_isName _ isName_temporaryName
  rw [hpath]
  exact Location.through_iff rfl

theorem templateAt_ne_nil : templateAt here b ≠ [] := by
  rw [templateAt_eq]
  simp

/-- What does not contain the directory that buf runs in does not contain the template. -/
theorem not_below_templateAt {top : Location} (h : ¬ top <+: resolve here (workingDir here b)) :
    ¬ isBelow top (templateAt here b) = true := by
  rw [templateAt_eq]
  exact FileTree.not_isBelow_concat h

/-- If it spares the template, it has nothing of the way to it either. -/
theorem not_below_of_onWay {dir : Path}
    (hworking : ¬ resolve here dir <+: resolve here (workingDir here b))
    (hspared : Spared here (templatePath here b) dir) (hl : OnWay here (workingDir here b) l) :
    ¬ isBelow (resolve here dir) l = true := by
  rcases hspared.cases with hout | ⟨-, hbelow⟩
  · exact hout l (through_templatePath_iff.mpr hl)
  · exact absurd hbelow (not_below_templateAt hworking)

/-! ## Before buf runs -/

/-- The files once the template is written: it is there, and so are the directories on
the way to it. -/
structure TemplateWritten (here : Location) (b : BufRequest) (t t' : FileTree) : Prop where
  passes : t'.Passes (start here (templatePath here b)) (templatePath here b).segments
  free : t.get? (templateAt here b) ≠ some .directory
  there : ∃ octets, t'.get? (templateAt here b) = some (.file octets)
  elsewhere : ∀ l, l ≠ templateAt here b →
    Kept (OnWay here (workingDir here b)) l (t.get? l) (t'.get? l)

theorem templateWritten {schemaDir : Path} {outputDir text : String} {modules : List String}
    {goPrefix : Option String} {w w' : Workspace}
    (h : writeTemplate here schemaDir outputDir (templatePath here b) modules goPrefix w =
      .ok text w') : TemplateWritten here b w.tree w'.tree := by
  obtain ⟨w₁, u, htree, hwrite, -⟩ := writeText_of_writeTemplate h
  obtain ⟨t, hgrown, -, -, hfree, heq⟩ := writeText_of_ok hwrite
  rw [parent_templatePath, htree] at hgrown
  refine ⟨passes_of_writeTemplate h, fun hdir => hfree (hgrown.directory hdir),
    ⟨Text.encode text, ?_⟩, ?_⟩
  · rw [heq]
    exact FileTree.get?_put_self templateAt_ne_nil _ t
  · intro l hl
    have hput : w'.tree.get? l = t.get? l := by
      rw [heq]
      exact FileTree.get?_put_of_ne hl _ t
    rw [hput]
    exact hgrown l

/-- On the way to the directory of the modules, or to the one that buf runs in. -/
def OnBufWays (here : Location) (r : Request) (b : BufRequest) (l : Location) : Prop :=
  OnWay here r.generatedDir l ∨ OnWay here (workingDir here b) l

/-- The files as buf gets them, but for the template: the directory of the modules is
empty, it and the working directory are there, and all else is what it was. -/
structure Prepared (here : Location) (r : Request) (b : BufRequest) (t t' : FileTree) : Prop where
  template : t'.get? (templateAt here b) = none
  emptied : ∀ l, isBelow (r.generatedAt here) l = true → t'.get? l = none
  there : ∀ l, OnBufWays here r b l → t'.get? l = some .directory
  elsewhere : ∀ l, ¬ isBelow (r.generatedAt here) l = true → l ≠ templateAt here b →
    Kept (OnBufWays here r b) l (t.get? l) (t'.get? l)

section reset

variable {t t₁ t₂ : FileTree} {u : Unit}

/-- Writing the template leaves the path of the modules leading where it led. -/
theorem TemplateWritten.leadsTo (h : TemplateWritten here b t t₁)
    (hworking : ¬ r.generatedAt here <+: resolve here (workingDir here b))
    (hspared : Spared here (templatePath here b) r.generatedDir)
    (hleads : LeadsTo here r.generatedDir t) : LeadsTo here r.generatedDir t₁ where
  not_through := hleads.not_through
  reached := by
    refine hleads.reached.imp (fun hempty l hbelow => ?_) fun hway l hl => ?_
    · have hne : l ≠ templateAt here b := by
        rintro rfl
        exact not_below_templateAt hworking hbelow
      rcases h.elsewhere l hne with heq | ⟨-, -, hl⟩
      · rw [heq, hempty l hbelow]
      · exact absurd hbelow (not_below_of_onWay hworking hspared hl)
    · have hne : l ≠ templateAt here b := by
        rintro rfl
        exact h.free (hway _ hl)
      exact (h.elsewhere l hne).directory (hway l hl)

/-- Then the directory of the modules is reset: the template stays, with its way. -/
theorem TemplateWritten.prepared (h : TemplateWritten here b t t₁)
    (hreset : FileTree.Operation.resetDirectory here r.generatedDir t₁ = .ok u t₂)
    (hworking : ¬ r.generatedAt here <+: resolve here (workingDir here b))
    (hspared : Spared here (templatePath here b) r.generatedDir)
    (hleads : LeadsTo here r.generatedDir t) :
    t₂.Passes (start here (templatePath here b)) (templatePath here b).segments ∧
      (∃ octets, t₂.get? (templateAt here b) = some (.file octets)) ∧
      Prepared here r b t (t₂.erase (templateAt here b)) := by
  -- nothing on the way to the template is in what was emptied
  have hway : ∀ l, OnWay here (workingDir here b) l → t₂.get? l = some .directory := by
    intro l hl
    have hkept := FileTree.Operation.resetDirectory_kept hreset
      (not_below_of_onWay hworking hspared hl)
    exact hkept.directory (h.passes.directory (through_templatePath_iff.mpr hl))
  have hgenerated : ∀ l, OnWay here r.generatedDir l → t₂.get? l = some .directory := by
    obtain ⟨hpasses, hend⟩ := FileTree.pathIsDirectory_iff.mp
      (FileTree.Operation.resetDirectory_of_ok hreset).1
    intro l hl
    rcases FileTree.onWay_iff.mp hl with hthrough | rfl
    · exact hpasses.directory hthrough
    · exact hend
  obtain ⟨octets, hfile⟩ := h.there
  have hthere : t₂.get? (templateAt here b) = some (.file octets) := by
    rcases FileTree.Operation.resetDirectory_kept hreset (not_below_templateAt hworking) with
      heq | ⟨hnone, -, -⟩
    · rw [heq, hfile]
    · rw [hfile] at hnone
      cases hnone
  have hways : ∀ l, OnBufWays here r b l → t₂.get? l = some .directory :=
    fun l hl => hl.elim (hgenerated l) (hway l)
  refine ⟨FileTree.passes_of_through h.passes fun l hl => hway l (through_templatePath_iff.mp hl),
    ⟨octets, hthere⟩, ?_, ?_, ?_, ?_⟩
  · exact FileTree.get?_erase_self templateAt_ne_nil t₂
  · intro l hbelow
    have hne : l ≠ templateAt here b := by
      rintro rfl
      exact not_below_templateAt hworking hbelow
    rw [FileTree.get?_erase_of_ne hne]
    exact FileTree.Operation.resetDirectory_emptied hreset (h.leadsTo hworking hspared hleads) hbelow
  · intro l hl
    have hdir := hways l hl
    have hne : l ≠ templateAt here b := by
      rintro rfl
      rw [hthere] at hdir
      cases hdir
    rw [FileTree.get?_erase_of_ne hne, hdir]
  · intro l hout hne
    rw [FileTree.get?_erase_of_ne hne]
    exact ((h.elsewhere l hne).mono Or.inr).trans
      ((FileTree.Operation.resetDirectory_kept hreset hout).mono Or.inl)

end reset

/-! ## The run -/

/-- The schema, a module and a client of an earlier run. -/
def earlierWorkspace : Workspace where
  tree :=
    { items := [(["protos"], .directory), (["protos", "a.proto"], .file []), (["gen"], .directory),
        (["gen", "old_pb.ts"], .file []), (["services"], .directory),
        (["services", "ping.client.ts"], .file [])]
      nodup := by decide }

/-- buf stops after one module. -/
def halfDone : BufOutcome := .ended 1 "" "boom" [(["gen", "a_pb.ts"], [])]

/-- A directory for the modules inside of the one for the clients. -/
def insideRequest : Request where
  generatedDir := ⟨"", ["services", "gen"]⟩
  servicesDir := ⟨"", ["services"]⟩

def insideWorkspace : Workspace where
  tree :=
    { items := [(["protos"], .directory), (["protos", "a.proto"], .file []),
        (["services"], .directory), (["services", "gen"], .directory),
        (["services", "gen", "old_pb.ts"], .file [])]
      nodup := by decide }

/-- A path that does not lead to the modules before it is made. -/
def roundaboutRequest : Request where
  generatedDir := ⟨"", ["missing", "..", "gen"]⟩
  servicesDir := ⟨"", ["services"]⟩

theorem exists_buf_error {α : Type} (fault : BufFault) (l : Location) (item : Option Item)
    (x : Action α) (w : Workspace)
    (h : MeetsFailure (fun e w => (match e with
      | .buf found => found == fault
      | _ => false) && w.tree.get? l == item) (x w) = true) :
    ∃ w', x w = .error (.buf fault) w' ∧ w'.tree.get? l = item := by
  obtain ⟨e, w', hrun, htest⟩ := exists_error_of_meets _ x w h
  rw [Bool.and_eq_true] at htest
  cases e with
  | buf found =>
      rw [beq_iff_eq, beq_iff_eq] at htest
      obtain ⟨rfl, hitem⟩ := htest
      exact ⟨w', hrun, hitem⟩
  | _ => exact absurd htest.1 Bool.false_ne_true

end Generation

end ConnectClients
