import ConnectClients.CommandLine.Run
import ConnectClients.Proofs.Yaml.Faults
import ConnectClients.Proofs.Yaml.Readers

/-!
# Documents that command lines meet

A command line reads its settings, the file of a module of buf, and the template it has written if
it is asked to verify that. It ends with a status, whatever these say, unless a scalar in one of
them has no value.
-/

namespace ConnectClients

open Runs
open Yaml (loadFile ScalarFault FileFault)

variable {here : Location} {w : Workspace}

/-! ## Commands -/

namespace Generation

theorem writeTemplate_fails (here : Location) (w : Workspace) (schemaDir : Path)
    (outputDir : String) (file : Path) (modules : List String) (goPrefix : Option String) :
    Fails (writeTemplate here schemaDir outputDir file modules goPrefix) w
      (Failure.ScalarMeets (BufModule.HasFault w.tree here)) := by
  rw [writeTemplate]
  refine (BufModule.find?_fails schemaDir).bind fun found w₁ hfound => ?_
  have htree := BufModule.tree_of_find? hfound
  cases found with
  | none =>
      refine Fails.bind fails_pure fun _ w₂ _ => ?_
      refine (Output.writeText_fails here file _ w₂ Failure.scalarMeets_write).bind ?_
      exact fun _ _ _ => fails_pure
  | some m =>
      have hdependencies : Fails (BufModule.dependencies here (m.root.path.child BufModule.fileName))
          w₁ (Failure.ScalarMeets (BufModule.HasFault w.tree here)) := by
        rw [← htree]
        exact BufModule.dependencies_fails m.root
      refine hdependencies.bind fun deps w₂ _ => ?_
      apply Action.fails_record_bind
      refine Fails.bind fails_pure fun _ w₃ _ => ?_
      refine (Output.writeText_fails here file _ w₃ Failure.scalarMeets_write).bind ?_
      exact fun _ _ _ => fails_pure

theorem fromSchemas_fails (here : Location) (w : Workspace) (outcome : BufOutcome) (r : Request)
    (schemaDir : Path) (b : BufRequest) :
    Fails (fromSchemas here outcome r schemaDir b) w
      (Failure.ScalarMeets (BufModule.HasFault w.tree here)) := by
  rw [fromSchemas]
  refine (writeTemplate_fails here w schemaDir _ _ _ _).bind fun _ w₁ _ => ?_
  have hremove : ∀ w₂ : Workspace, Fails (Action.operate .os (FileTree.Operation.removeFile here
      ((b.directory.getD here.path).child temporaryName))) w₂
      (Failure.ScalarMeets (BufModule.HasFault w.tree here)) :=
    fun w₂ => Action.fails_operate (fun _ => nofun) _
  refine Fails.bind (Fails.tryCatch fun e w₂ hrun => ?_) fun _ w₂ _ => ?_
  · refine (hremove w₂).bind fun _ w₃ _ => fails_throw ?_
    have hsteps : Fails (do
        Output.reset here r.generatedDir
        let _ ← BufRun.run here outcome ((b.directory.getD here.path).child temporaryName)
          (b.directory.getD here.path) b.executable) w₁
        (Failure.ScalarMeets (BufModule.HasFault w.tree here)) := by
      refine (Output.reset_fails here _ w₁ Failure.scalarMeets_write).bind fun _ w₄ _ => ?_
      exact (run_fails outcome _ _ _ w₄).bind fun _ _ _ => fails_pure
    exact hsteps.of_error hrun
  · exact (hremove w₂).bind fun _ w₃ _ => fromModules_fails r (some schemaDir) w₃

end Generation

namespace CommandLine

theorem requestOf_fails {flags : ServiceFlags} {settings : Settings}
    {P : ScalarFault → Prop} : ∀ f, requestOf flags settings = .error f → Failure.ScalarMeets P f := by
  intro f h
  rw [requestOf] at h
  split at h
  · cases h
    exact fun _ heq => nomatch heq
  · cases h

/-- The text that a command writes and then verifies. -/
def Command.Verifies (here : Location) (w : Workspace) (settings : Settings) (text : String) :
    Command → Prop
  | .template schemaDir outputDir buf file verify =>
    verify = true ∧ ∃ w₁, Generation.writeTemplate here (Path.ofString schemaDir)
      ((pick outputDir (some settings.outputDir)).getD "") (Path.ofString file)
      (settings.additionalModules ++ buf.modules) (pick buf.goPrefix settings.goPackagePrefix) w =
        .ok text w₁
  | _ => False

/-- What a scalar's fault stands in, if a command fails by it. -/
def Command.HasFault (c : Command) (here : Location) (w : Workspace) (settings : Settings)
    (fault : ScalarFault) : Prop :=
  BufModule.HasFault w.tree here fault ∨
    ∃ text, c.Verifies here w settings text ∧ GenTemplate.verify text = .error fault

theorem Command.run_fails (outcome : BufOutcome) (settings : Settings) (c : Command) :
    Fails (c.run here outcome settings) w (Failure.ScalarMeets (c.HasFault here w settings)) := by
  cases c with
  | generate schemaDir flags buf executable =>
      rw [Command.run]
      refine (Action.fails_ofExcept requestOf_fails).bind fun request w₁ hrequest => ?_
      obtain ⟨-, rfl⟩ := Action.ofExcept_eq_ok_iff.mp hrequest
      have hrun := Generation.fromSchemas_fails here w₁ outcome request
        (Path.ofString schemaDir)
        { modules := settings.additionalModules ++ buf.modules
          goPrefix := pick buf.goPrefix settings.goPackagePrefix
          executable := executable }
      refine Fails.bind ⟨fun h fault heq => Or.inl (hrun.of_error h fault heq)⟩ fun _ _ _ => ?_
      exact fails_pure
  | wrappers schemaDir flags =>
      rw [Command.run]
      refine (Action.fails_ofExcept requestOf_fails).bind fun request w₁ _ => ?_
      exact (Generation.fromModules_fails _ _ w₁).bind fun _ _ _ => fails_pure
  | template schemaDir outputDir buf file verify =>
      rw [Command.run]
      simp only
      have hwrite := Generation.writeTemplate_fails here w (Path.ofString schemaDir)
        ((pick outputDir (some settings.outputDir)).getD "") (Path.ofString file)
        (settings.additionalModules ++ buf.modules) (pick buf.goPrefix settings.goPackagePrefix)
      refine Fails.bind ⟨fun h fault heq => Or.inl (hwrite.of_error h fault heq)⟩
        fun text w₁ htext => ?_
      cases verify with
      | false => exact fails_pure
      | true =>
          refine (Action.fails_ofExcept fun fault hfault => ?_).bind fun _ _ _ => fails_pure
          intro fault' heq
          cases heq
          exact Or.inr ⟨text, ⟨rfl, w₁, htext⟩, hfault⟩

/-- The settings that a command runs with. -/
def Invocation.RunsWith (i : Invocation) (here : Location) (w : Workspace) (settings : Settings) :
    Prop :=
  match filled? i.settingsFile with
  | none => settings = {}
  | some file => Settings.load here (Path.ofString file) w = .ok settings w

/-- What a scalar's fault stands in, if a command line fails by it. -/
def Invocation.HasFault (i : Invocation) (here : Location) (w : Workspace) (fault : ScalarFault) :
    Prop :=
  (∃ file, filled? i.settingsFile = some file ∧
    loadFile w.tree here (Path.ofString file) = .error (.scalar fault)) ∨
  ∃ settings, i.RunsWith here w settings ∧ i.command.HasFault here w settings fault

theorem Invocation.run_fails (outcome : BufOutcome) (i : Invocation) :
    Fails (i.run here outcome) w (Failure.ScalarMeets (i.HasFault here w)) := by
  rw [Invocation.run]
  have hcommand : ∀ settings, i.RunsWith here w settings →
      Fails (i.command.run here outcome settings) w (Failure.ScalarMeets (i.HasFault here w)) :=
    fun settings hsettings => ⟨fun h fault heq =>
      Or.inr ⟨settings, hsettings, (Command.run_fails outcome settings _).of_error h fault heq⟩⟩
  cases hfile : filled? i.settingsFile with
  | none =>
      have hsettings : i.RunsWith here w {} := by rw [RunsWith, hfile]
      exact fails_bind_of_ok rfl (hcommand _ hsettings)
  | some file =>
      by_cases hscalar : ∃ fault, loadFile w.tree here (Path.ofString file) = .error (.scalar fault)
      · obtain ⟨fault, hscalar⟩ := hscalar
        refine ⟨fun h fault' heq => Or.inl ⟨file, hfile, ?_⟩⟩
        simp only [bind_eq_of_error (Settings.load_of_scalar hscalar)] at h
        cases h
        cases heq
        exact hscalar
      · rcases Settings.load_of_not_scalar fun fault hfault => hscalar ⟨fault, hfault⟩ with
          ⟨settings, hload⟩ | ⟨f, hload⟩
        · have hsettings : i.RunsWith here w settings := by
            rw [RunsWith, hfile]
            exact hload
          exact fails_bind_of_ok hload (hcommand settings hsettings)
        · refine ⟨fun h fault heq => ?_⟩
          simp only [bind_eq_of_error hload] at h
          cases h
          cases heq

/-! ## Command lines -/

theorem Command.status_le {outcome : BufOutcome} {settings : Settings} {c : Command}
    {res : CommandResult} {w' : Workspace} (h : c.run here outcome settings w = .ok res w') :
    res.status ≤ 2 := by
  cases c with
  | generate schemaDir flags buf executable =>
      rw [Command.run, bind_eq_ok_iff] at h
      obtain ⟨request, w₁, -, h⟩ := h
      obtain ⟨result, w₂, -, h⟩ := bind_eq_ok_iff.mp h
      obtain ⟨rfl, -⟩ := pure_eq_ok_iff.mp h
      exact Nat.zero_le _
  | wrappers schemaDir flags =>
      rw [Command.run, bind_eq_ok_iff] at h
      obtain ⟨request, w₁, -, h⟩ := h
      obtain ⟨result, w₂, -, h⟩ := bind_eq_ok_iff.mp h
      obtain ⟨rfl, -⟩ := pure_eq_ok_iff.mp h
      exact Nat.zero_le _
  | template schemaDir outputDir buf file verify =>
      rw [Command.run] at h
      simp only at h
      obtain ⟨text, w₁, -, h⟩ := bind_eq_ok_iff.mp h
      cases verify with
      | false =>
          obtain ⟨rfl, -⟩ := pure_eq_ok_iff.mp h
          exact Nat.zero_le _
      | true =>
          obtain ⟨problems, w₂, -, h⟩ := bind_eq_ok_iff.mp h
          obtain ⟨rfl, -⟩ := pure_eq_ok_iff.mp h
          simp only
          split
          · exact Nat.zero_le _
          · exact Nat.le_succ 1

theorem Invocation.status_le {outcome : BufOutcome} {i : Invocation} {res : CommandResult}
    {w' : Workspace} (h : i.run here outcome w = .ok res w') : res.status ≤ 2 := by
  rw [Invocation.run] at h
  cases hfile : filled? i.settingsFile with
  | none =>
      rw [hfile] at h
      exact Command.status_le h
  | some file =>
      rw [hfile] at h
      obtain ⟨settings, w₁, -, h⟩ := bind_eq_ok_iff.mp h
      exact Command.status_le h

/-- The workspace with the records that are shown. -/
def hidden (verbose : Bool) (w : Workspace) : Workspace :=
  { w with log := shownRecords verbose w.log }

variable {outcome : BufOutcome} {words : List String} {i : Invocation}

theorem execute_of_run_ok {res : CommandResult} {w₁ : Workspace}
    (hwords : Invocation.ofWords words = .ok i) (hrun : i.run here outcome w = .ok res w₁) :
    execute here outcome words w = .ok res (hidden i.verbose w₁) := by
  rw [execute, hwords]
  show EStateM.bind (EStateM.tryCatch (EStateM.bind (i.run here outcome) _) _) _ w = _
  simp only [EStateM.bind, tryCatch_run, hrun]
  rfl

/-- A failure that the user can mend becomes a message, and every other one leaves. -/
theorem execute_of_run_error {e : Failure} {w₁ : Workspace}
    (hwords : Invocation.ofWords words = .ok i) (hrun : i.run here outcome w = .error e w₁) :
    execute here outcome words w =
      match mendable? e with
      | some message => .ok { status := 2, error := some message } (hidden i.verbose w₁)
      | none => .error e (hidden i.verbose w₁) := by
  rw [execute, hwords]
  show EStateM.bind (EStateM.tryCatch (EStateM.bind (i.run here outcome) _) _) _ w = _
  simp only [EStateM.bind, tryCatch_run, hrun]
  cases mendable? e with
  | some message => rfl
  | none => rfl

theorem execute_of_usage {fault : UsageFault} (hwords : Invocation.ofWords words = .error fault) :
    ∃ res, execute here outcome words w = .ok res w ∧ res.status ≤ 2 := by
  rw [execute, hwords]
  cases fault with
  | help => exact ⟨_, rfl, Nat.zero_le _⟩
  | _ => exact ⟨_, rfl, Nat.le_refl _⟩

/-- A command line ends with a status from zero to two, or by a failure that the user cannot mend;
if that is a scalar's fault, the scalar is in a document that was read. -/
theorem execute_ends (here : Location) (w : Workspace) (outcome : BufOutcome)
    (words : List String) :
    (∃ res w', execute here outcome words w = .ok res w' ∧ res.status ≤ 2) ∨
      ∃ i e w', Invocation.ofWords words = .ok i ∧ execute here outcome words w = .error e w' ∧
        mendable? e = none ∧ ∀ fault, e = .scalar fault → i.HasFault here w fault := by
  cases hwords : Invocation.ofWords words with
  | error fault =>
      obtain ⟨res, hrun, hstatus⟩ := execute_of_usage hwords
      exact Or.inl ⟨res, w, hrun, hstatus⟩
  | ok i =>
      cases hrun : i.run here outcome w with
      | ok res w₁ =>
          exact Or.inl ⟨res, _, execute_of_run_ok hwords hrun, Invocation.status_le hrun⟩
      | error e w₁ =>
          have hexecute := execute_of_run_error hwords hrun
          cases hmend : mendable? e with
          | some message =>
              rw [hmend] at hexecute
              exact Or.inl ⟨_, _, hexecute, Nat.le_refl _⟩
          | none =>
              rw [hmend] at hexecute
              exact Or.inr ⟨i, e, _, rfl, hexecute, hmend, (Invocation.run_fails outcome i).of_error hrun⟩

/-- A command line fails by a scalar of its settings file. -/
theorem execute_of_settings_scalar {file : String} {fault : ScalarFault}
    (hwords : Invocation.ofWords words = .ok i) (hfile : filled? i.settingsFile = some file)
    (h : loadFile w.tree here (Path.ofString file) = .error (.scalar fault)) :
    ∃ w', execute here outcome words w = .error (.scalar fault) w' := by
  have hrun : i.run here outcome w = .error (.scalar fault) w := by
    rw [Invocation.run, hfile]
    simp only [bind_eq_of_error (Settings.load_of_scalar h)]
  exact ⟨_, execute_of_run_error hwords hrun⟩

/-! ## Documents -/

/-- How the readers of documents end. On a document whose scalars all have values, each of them
succeeds or fails in its own way, and a malformed file of a module counts as an empty one. On any
other document each of them fails by a scalar of it. -/
structure DocumentsRead (here : Location) (w : Workspace) : Prop where
  settings : ∀ path,
    (∀ fault, loadFile w.tree here path = .error (.scalar fault) →
      Settings.load here path w = .error (.scalar fault) w) ∧
    ((∀ fault, loadFile w.tree here path ≠ .error (.scalar fault)) →
      (∃ s, Settings.load here path w = .ok s w) ∨
        ∃ f, Settings.load here path w = .error (.settings f) w)
  modules : ∀ start root,
    BufModule.rootAbove? w.tree (Location.resolve here start) = some root →
    (∀ fault, loadFile w.tree here (root.path.child BufModule.fileName) = .error (.scalar fault) →
      BufModule.find? here start w = .error (.scalar fault) w) ∧
    ((∀ fault, loadFile w.tree here (root.path.child BufModule.fileName) ≠ .error (.scalar fault)) →
      ∃ m w', BufModule.find? here start w = .ok (some m) w' ∧ w'.tree = w.tree ∧ m.root = root ∧
        ((∃ f, loadFile w.tree here (root.path.child BufModule.fileName) = .error f) →
          m.schemaDir = none))
  noModule : ∀ start, BufModule.rootAbove? w.tree (Location.resolve here start) = none →
    BufModule.find? here start w = .ok none w
  dependencies : ∀ file,
    (∀ fault, w.tree.pathIsFile here file = true →
      loadFile w.tree here file = .error (.scalar fault) →
      BufModule.dependencies here file w = .error (.scalar fault) w) ∧
    ((∀ fault, loadFile w.tree here file ≠ .error (.scalar fault)) →
      ∃ deps w', BufModule.dependencies here file w = .ok deps w' ∧ w'.tree = w.tree ∧
        ((∃ f, loadFile w.tree here file = .error f) → deps = []))
  verify : ∀ content : String,
    (∀ fault, Yaml.load content.toList = .error (.scalar fault) →
      GenTemplate.verify content = .error fault) ∧
    ((∀ fault, Yaml.load content.toList ≠ .error (.scalar fault)) →
      ∃ problems, GenTemplate.verify content = .ok problems)
  /-- A fault of a scalar is that of a scalar in the document, under a tag that asks for a switch,
  a number or a time, or that of an escape without a character. -/
  scalars : ∀ text fault, Yaml.load text = .error (.scalar fault) →
    (∃ code, Yaml.Node.ofText? text = .error (.noCharacter code) ∧ fault = .noCharacter code) ∨
      ∃ node, Yaml.Node.ofText? text = .ok (some node) ∧ ∃ s ∈ node.scalars,
        Yaml.scalarValue s.1 s.2 = .error (.scalar fault) ∧
        (s.1 = .bool ∨ s.1 = .int ∨ s.1 = .float ∨ s.1 = .timestamp)
  commandLine : ∀ outcome words,
    (∃ res w', execute here outcome words w = .ok res w' ∧ res.status ≤ 2) ∨
      ∃ i e w', Invocation.ofWords words = .ok i ∧ execute here outcome words w = .error e w' ∧
        mendable? e = none ∧ ∀ fault, e = .scalar fault → i.HasFault here w fault
  settingsOption : ∀ outcome words i file fault, Invocation.ofWords words = .ok i →
    filled? i.settingsFile = some file →
    loadFile w.tree here (Path.ofString file) = .error (.scalar fault) →
    ∃ w', execute here outcome words w = .error (.scalar fault) w'

theorem verify_of_scalar {content : String} {fault : ScalarFault}
    (h : Yaml.load content.toList = .error (.scalar fault)) :
    GenTemplate.verify content = .error fault := by
  rw [GenTemplate.verify, h]

theorem verify_of_not_scalar {content : String}
    (h : ∀ fault, Yaml.load content.toList ≠ .error (.scalar fault)) :
    ∃ problems, GenTemplate.verify content = .ok problems := by
  rw [GenTemplate.verify]
  cases hload : Yaml.load content.toList with
  | ok v => exact ⟨_, rfl⟩
  | error e =>
      cases e with
      | malformed => exact ⟨_, rfl⟩
      | scalar fault => exact absurd hload (h fault)

/-- The fault of a result, if it is none. -/
def fault? {ε α : Type} : Except ε α → Option ε
  | .ok _ => none
  | .error e => some e

theorem eq_error_of_fault? {ε α : Type} {x : Except ε α} {e : ε} (h : fault? x = some e) :
    x = .error e := by
  cases x with
  | ok a => cases h
  | error e' =>
      cases h
      rfl

/-- A workspace whose settings have a date in a thirteenth month. -/
def badDateWorkspace : Workspace where
  tree :=
    { items := [(["c.yaml"], .file (Text.encode "output_dir: 2001-13-45\n"))]
      nodup := by decide }

end CommandLine

end ConnectClients
