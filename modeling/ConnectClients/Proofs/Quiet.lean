import ConnectClients.Generation
import ConnectClients.Proofs.Endings

/-!
# Actions that call nothing

Only the run of buf makes a call. All other actions leave the calls as they are, and nothing that was
recorded is ever taken out of the log, however an action ends.
-/

namespace ConnectClients

open Runs

/-! ## Quiet actions -/

/-- The log goes on, and no call was made. -/
structure Quiet (w w' : Workspace) : Prop where
  log : w.log <+: w'.log
  calls : w'.calls = w.calls

theorem Quiet.refl (w : Workspace) : Quiet w w := ⟨List.prefix_refl _, rfl⟩

theorem Quiet.trans {w w' w'' : Workspace} (h : Quiet w w') (h' : Quiet w' w'') : Quiet w w'' :=
  ⟨h.log.trans h'.log, h'.calls.trans h.calls⟩

/-- However it ends, the action has made no call. -/
def IsQuiet {α : Type} (x : Action α) : Prop := ∀ w, Ends x w (Quiet w) fun _ => Quiet w

namespace IsQuiet

variable {α β : Type} {x : Action α}

theorem keeps (h : IsQuiet x) (w : Workspace) : Keeps (Quiet w) x :=
  fun w₁ hw₁ => (h w₁).mono (fun _ => hw₁.trans) fun _ _ => hw₁.trans

theorem bind {f : α → Action β} (hx : IsQuiet x) (hf : ∀ a, IsQuiet (f a)) : IsQuiet (x >>= f) :=
  fun w => (hx w).bind fun a w₁ hw₁ => (hf a).keeps w w₁ hw₁

theorem pure (a : α) : IsQuiet (pure a) := fun w => ends_pure (Quiet.refl w)

theorem throw (failure : Failure) : IsQuiet (throw failure : Action α) :=
  fun w => ends_throw (Quiet.refl w)

theorem tree : IsQuiet Action.tree := fun w => ends_of_ok rfl (Quiet.refl w)

theorem record (r : LogRecord) : IsQuiet (Action.record r) :=
  fun _ => ends_of_ok rfl ⟨List.prefix_append _ _, rfl⟩

theorem operate (wrap : OsFault → Failure) (op : FileTree.Operation α) :
    IsQuiet (Action.operate wrap op) := by
  intro w
  apply Action.ends_operate
  constructor
  · exact fun _ => ⟨List.prefix_refl _, rfl⟩
  · exact fun _ => ⟨List.prefix_refl _, rfl⟩

theorem ofExcept {ε : Type} (wrap : ε → Failure) (e : Except ε α) :
    IsQuiet (Action.ofExcept wrap e) := by
  cases e with
  | ok a => exact pure a
  | error fault => exact throw _

theorem filterM {test : α → Action Bool} (h : ∀ a, IsQuiet (test a)) (as : List α) :
    IsQuiet (as.filterM test) :=
  fun w => keeps_filterM (fun a => (h a).keeps w) as w (Quiet.refl w)

end IsQuiet

/-! ## Output -/

namespace Output

variable (here : Location) (p : Path) (name text : String)

theorem reset_quiet : IsQuiet (reset here p) := .operate _ _

theorem makeDirectories_quiet : IsQuiet (makeDirectories here p) := .operate _ _

theorem writeFile_quiet : IsQuiet (writeFile here p text) := .operate _ _

theorem writeText_quiet : IsQuiet (writeText here p text) :=
  (makeDirectories_quiet here p.parent).bind fun _ => writeFile_quiet here p text

theorem writeInto_quiet : IsQuiet (writeInto here p name text) :=
  (writeFile_quiet here (p.child name) text).bind fun _ => .pure _

theorem writeTypesIndex_quiet : IsQuiet (writeTypesIndex here p text) :=
  (makeDirectories_quiet here p).bind fun _ => writeInto_quiet here p indexName text

theorem writeTransport_quiet : IsQuiet (writeTransport here p text) := by
  refine IsQuiet.tree.bind fun t => ?_
  split
  · exact .pure _
  · exact (makeDirectories_quiet here p).bind fun _ => writeInto_quiet here p transportName text

end Output

/-! ## Reading -/

theorem Discovery.serviceFiles_quiet (here : Location) (dir : Path) :
    IsQuiet (serviceFiles here dir) := by
  refine IsQuiet.tree.bind fun t => .filterM (fun m => ?_) _
  cases t.readText here (dir.below m) with
  | ok content => exact .pure _
  | error fault => exact (IsQuiet.record _).bind fun _ => .pure false

namespace BufModule

theorem document_quiet (here : Location) (p : Path) : IsQuiet (document here p) := by
  refine IsQuiet.tree.bind fun t => ?_
  split
  · exact .pure _
  · exact .pure _
  · exact (IsQuiet.record _).bind fun _ => .pure _
  · exact (IsQuiet.record _).bind fun _ => .pure _
  · exact .throw _

theorem find?_quiet (here : Location) (start : Path) : IsQuiet (find? here start) := by
  refine IsQuiet.tree.bind fun t => ?_
  split
  · exact .pure _
  · refine (document_quiet here _).bind fun fields => ?_
    split
    · exact .pure _
    · dsimp only
      split
      · exact (IsQuiet.record _).bind fun _ => .pure _
      · exact .pure _

theorem dependencies_quiet (here : Location) (file : Path) : IsQuiet (dependencies here file) := by
  refine IsQuiet.tree.bind fun t => ?_
  split
  · exact .pure _
  · exact (document_quiet here file).bind fun _ => .pure _

end BufModule

/-! ## Generation -/

namespace Generation

variable (here : Location) (r : Request)

theorem renameIn_quiet (dir : Path) (names : List (String × String)) (m : List String) :
    IsQuiet (renameIn here dir names m) := by
  refine IsQuiet.tree.bind fun t => ?_
  cases t.readText here (dir.below m) with
  | error fault => exact .pure _
  | ok content =>
      refine (IsQuiet.ofExcept _ _).bind fun found => ?_
      obtain ⟨renamed, modified⟩ := found
      cases modified with
      | false => exact .pure _
      | true => exact (Output.writeText_quiet here _ renamed).bind fun _ => .pure _

theorem renameAll_quiet (dir : Path) (names : List (String × String)) (ms : List (List String)) :
    IsQuiet (renameAll here dir names ms) := by
  induction ms with
  | nil => exact .pure _
  | cons m rest ih => exact (renameIn_quiet here dir names m).bind fun _ => ih.bind fun _ => .pure _

theorem renames_quiet (schemaDir : Option Path) : IsQuiet (renames here r schemaDir) := by
  cases schemaDir with
  | none => exact .pure _
  | some schemaDir =>
      refine (IsQuiet.tree.bind fun t => .pure _ : IsQuiet (declaredNames here schemaDir)).bind ?_
      rintro ⟨names, warnings⟩
      dsimp only
      split
      · exact .pure _
      · refine IsQuiet.tree.bind fun t => ?_
        exact (renameAll_quiet here r.generatedDir names _).bind fun _ => .pure _

theorem collectServices_quiet (dir : Path) : IsQuiet (collectServices here dir) :=
  (Discovery.serviceFiles_quiet here dir).bind fun _ => IsQuiet.tree.bind fun _ => .pure _

theorem writeClients_quiet (services : List Service) (written : List ClientEntry)
    (warnings : List String) : IsQuiet (writeClients here r services written warnings) := by
  induction services generalizing written warnings with
  | nil => exact .pure _
  | cons s rest ih =>
      refine (IsQuiet.ofExcept _ _).bind fun passes => ?_
      split
      · exact (IsQuiet.record _).bind fun _ => ih written warnings
      · dsimp only
        split
        · exact ih written _
        · exact (Output.writeInto_quiet here _ _ _).bind fun _ => ih _ warnings

/-- What a run does once the services are collected. -/
def writeOutput (renamed renameWarnings : List String) (services : List Service)
    (readWarnings : List String) : Action GenerationResult := do
  let emptyWarnings := if services.isEmpty then
    ["No service files found in generated directory " ++ r.generatedDir.toString] else []
  Output.reset here r.servicesDir
  Output.reset here (typesDir r.servicesDir)
  let (entries, skipWarnings) ← writeClients here r services [] []
  let filterWarnings := if !services.isEmpty && entries.isEmpty then
    ["No services generated (no service matched the include/exclude patterns)"] else []
  let _ ← Output.writeServicesIndex here r.servicesDir (ClientModule.renderIndex entries r.moduleName)
  let typeFiles := Discovery.typeFiles (← Action.tree) here r.generatedDir
  let _ ← Output.writeTypesIndex here (typesDir r.servicesDir) (TypesIndex.render typeFiles)
  let _ ← Output.writeTransport here (apiDir r.servicesDir r.moduleName) ClientModule.transport
  Action.record (.info ("Generated " ++ toString entries.length ++
    " service client(s) and a types index over " ++ toString typeFiles.length ++ " module(s)"))
  return ⟨r.servicesDir, typesDir r.servicesDir, entries, typeFiles, renamed,
    renameWarnings ++ readWarnings ++ emptyWarnings ++ skipWarnings ++ filterWarnings⟩

theorem fromModules_eq (schemaDir : Option Path) : fromModules here r schemaDir = (do
    let (renamed, renameWarnings) ← renames here r schemaDir
    let (services, readWarnings) ← collectServices here r.generatedDir
    writeOutput here r renamed renameWarnings services readWarnings) := rfl

theorem writeOutput_quiet (renamed renameWarnings : List String) (services : List Service)
    (readWarnings : List String) :
    IsQuiet (writeOutput here r renamed renameWarnings services readWarnings) := by
  refine (Output.reset_quiet here r.servicesDir).bind fun _ => ?_
  refine (Output.reset_quiet here _).bind fun _ => ?_
  refine (writeClients_quiet here r services [] []).bind fun _ => ?_
  refine (Output.writeInto_quiet here r.servicesDir _ _).bind fun _ => ?_
  refine IsQuiet.tree.bind fun _ => ?_
  refine (Output.writeTypesIndex_quiet here _ _).bind fun _ => ?_
  refine (Output.writeTransport_quiet here _ _).bind fun _ => ?_
  exact (IsQuiet.record _).bind fun _ => .pure _

/-- Generating from modules calls nothing. -/
theorem fromModules_quiet (schemaDir : Option Path) : IsQuiet (fromModules here r schemaDir) := by
  rw [fromModules_eq]
  refine (renames_quiet here r schemaDir).bind fun _ => ?_
  refine (collectServices_quiet here r.generatedDir).bind fun _ => ?_
  exact writeOutput_quiet here r _ _ _ _

theorem writeTemplate_quiet (schemaDir : Path) (outputDir : String) (file : Path)
    (modules : List String) (goPrefix : Option String) :
    IsQuiet (writeTemplate here schemaDir outputDir file modules goPrefix) := by
  refine (BufModule.find?_quiet here schemaDir).bind fun found => ?_
  have hwrite : ∀ input : Path × List String, IsQuiet (do
      let text := (GenTemplate.build outputDir input.1.toString (addModules input.2 modules)
        goPrefix).render
      Output.writeText here file text
      return text) := fun _ => (Output.writeText_quiet here file _).bind fun _ => .pure _
  cases found with
  | none => exact (IsQuiet.pure (schemaDir, [])).bind hwrite
  | some m =>
      refine (BufModule.dependencies_quiet here _).bind fun deps => ?_
      exact (IsQuiet.record _).bind fun _ => (IsQuiet.pure (m.inputDir, deps)).bind hwrite

end Generation

end ConnectClients
