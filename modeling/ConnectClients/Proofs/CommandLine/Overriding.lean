import ConnectClients.CommandLine.Run
import ConnectClients.Proofs.CommandLine.Flags
import ConnectClients.Proofs.Discovery

/-!
# Flags over settings

A flag that is given overrides the setting of the same name, and a directory for the clients that
neither gives is derived from the one for all modules. A command keeps to this rule, except that a
flag with an empty text counts as none, unless it lists services, and that a directory for the
clients without a name counts as none wherever it comes from.
-/

namespace ConnectClients.CommandLine

variable {flag setting : Option String}

/-! ## What flags and settings decide -/

/-- What flags and settings decide for a command. -/
structure Choices where
  generatedDir : String
  outputDir : String
  servicesDir : Option String
  moduleName : Option String
  include? : Option (List String)
  exclude? : Option (List String)
  goPrefix : Option String
  deriving DecidableEq, Repr

namespace Choices

/-- What is in force: of the flags, all that is not empty, and every list of services; then the
settings, but no empty directory for the clients; and if that leaves none, the directory in which
the clients of the module belong. -/
def inForce (given : Flag → Option String) (settings : Settings) : Choices where
  generatedDir := (filled? (given .generatedDir)).getD settings.outputDir
  outputDir := (filled? (given .outputDir)).getD settings.outputDir
  servicesDir := ((filled? (given .servicesDir)).or (filled? settings.servicesDir)).or
    ((filled? settings.rpcServiceDir).map fun root =>
      servicesBelow root ((filled? (given .moduleName)).or settings.moduleName))
  moduleName := (filled? (given .moduleName)).or settings.moduleName
  include? := (ServiceFilter.ofList? (given .includeServices)).or settings.includeServices
  exclude? := (ServiceFilter.ofList? (given .excludeServices)).or settings.excludeServices
  goPrefix := (filled? (given .goPrefix)).or settings.goPackagePrefix

/-- The rule that a flag overrides its setting: the text of a flag that is given counts, whatever it
is, and the setting otherwise. A directory for the clients that neither gives is the one in which
the clients of the module that is decided on belong. -/
def Overrides (given : Flag → Option String) (settings : Settings) (choices : Choices) :
    Flag → Prop
  | .generatedDir => choices.generatedDir = (given .generatedDir).getD settings.outputDir
  | .outputDir => choices.outputDir = (given .outputDir).getD settings.outputDir
  | .servicesDir => choices.servicesDir = ((given .servicesDir).or settings.servicesDir).or
      ((filled? settings.rpcServiceDir).map fun root => servicesBelow root choices.moduleName)
  | .moduleName => choices.moduleName = (given .moduleName).or settings.moduleName
  | .includeServices =>
    choices.include? = (ServiceFilter.ofList? (given .includeServices)).or settings.includeServices
  | .excludeServices =>
    choices.exclude? = (ServiceFilter.ofList? (given .excludeServices)).or settings.excludeServices
  | .goPrefix => choices.goPrefix = (given .goPrefix).or settings.goPackagePrefix

/-- Nothing is passed over that a flag or its setting gives: the flag has no empty text in place of
a setting that is not empty, and a directory for the clients is not empty at all. -/
def Heeded (given : Flag → Option String) (settings : Settings) : Flag → Prop
  | .generatedDir => given .generatedDir = some "" → settings.outputDir = ""
  | .outputDir => given .outputDir = some "" → settings.outputDir = ""
  | .servicesDir => (given .servicesDir).or settings.servicesDir ≠ some ""
  | .moduleName => given .moduleName = some "" → settings.moduleName = some ""
  | .includeServices => True
  | .excludeServices => True
  | .goPrefix => given .goPrefix = some "" → settings.goPackagePrefix = some ""

/-- What to generate, if there is a directory for the clients. -/
def request (choices : Choices) : Except Failure Request :=
  match choices.servicesDir with
  | none => .error (.usage "--services-dir is required (or services_dir in the config file)")
  | some dir => .ok
    { generatedDir := Path.ofString choices.generatedDir
      servicesDir := Path.ofString dir
      moduleName := choices.moduleName
      include? := choices.include?
      exclude? := choices.exclude? }

end Choices

/-- Runs a command with what is decided, whatever its flags are. -/
def Command.runWith (here : Location) (outcome : BufOutcome) (modules : List String)
    (choices : Choices) : Command → Action CommandResult
  | .generate schemaDir _ buf executable => do
    let request ← Action.ofExcept id choices.request
    let result ← Generation.fromSchemas here outcome request (Path.ofString schemaDir)
      { modules := modules ++ buf.modules
        goPrefix := choices.goPrefix
        executable := executable }
    return { output := lines (resultLines result) }
  | .wrappers schemaDir _ => do
    let request ← Action.ofExcept id choices.request
    let result ← Generation.fromModules here request ((filled? schemaDir).map Path.ofString)
    return { output := lines (resultLines result) }
  | .template schemaDir _ buf file verify => do
    let file := Path.ofString file
    let text ← Generation.writeTemplate here (Path.ofString schemaDir) choices.outputDir file
      (modules ++ buf.modules) choices.goPrefix
    let written := "Wrote " ++ file.toString
    if !verify then return { output := lines [written] }
    let problems ← Action.ofExcept .scalar (GenTemplate.verify text)
    return { status := if problems.isEmpty then 0 else 1
             output := lines [written, GenTemplate.reportText problems] }

/-! ## Empty texts -/

theorem filled?_empty : filled? (some "") = none := rfl

theorem filled?_of_ne {value : Option String} (h : value ≠ some "") : filled? value = value := by
  cases value with
  | none => rfl
  | some text =>
      have htext : text ≠ "" := fun heq => h (congrArg some heq)
      simp [filled?, htext]

theorem filled?_ne (value : Option String) : filled? value ≠ some "" := by
  simp [filled?]

theorem pick_eq (flag setting : Option String) : pick flag setting = (filled? flag).or setting := by
  cases flag with
  | none => rfl
  | some text =>
      by_cases htext : text = ""
      · subst htext
        rfl
      · rw [filled?_of_ne (by simpa using htext), pick, if_neg (by simpa using htext)]
        rfl

theorem filled?_pick (flag setting : Option String) :
    filled? (pick flag setting) = (filled? flag).or (filled? setting) := by
  rw [pick_eq]
  cases hflag : filled? flag with
  | none => rfl
  | some text =>
      have htext : some text ≠ some "" := hflag ▸ filled?_ne flag
      rw [Option.some_or, Option.some_or, filled?_of_ne htext]

/-- An empty flag makes no difference exactly if the setting is empty, too. -/
theorem filled?_or_iff :
    (filled? flag).or setting = flag.or setting ↔ (flag = some "" → setting = some "") := by
  by_cases hflag : flag = some ""
  · subst hflag
    rw [filled?_empty, Option.none_or, Option.some_or, imp_iff_right rfl]
  · rw [filled?_of_ne hflag]
    exact iff_of_true rfl fun hempty => absurd hempty hflag

theorem filled?_getD_iff {text : String} :
    (filled? flag).getD text = flag.getD text ↔ (flag = some "" → text = "") := by
  rw [← Option.some_inj, ← Option.or_some, ← Option.or_some, filled?_or_iff, Option.some_inj]

/-- The first text that is not empty is the first one, unless that is empty. -/
theorem filled?_or_filled? (h : flag.or setting ≠ some "") :
    (filled? flag).or (filled? setting) = flag.or setting := by
  cases flag with
  | none => exact filled?_of_ne h
  | some text =>
      have htext : some text ≠ some "" := h
      rw [filled?_of_ne htext, Option.some_or, Option.some_or]

theorem toString_services_ne_empty (dir : Path) : (dir.child "services").toString ≠ "" := by
  have hname : Path.IsName "services" := ⟨by decide, by decide, by decide, by decide⟩
  rw [Path.child_of_isName _ hname, Path.toString, if_neg (by simp)]
  intro hempty
  have hsuffix : "services".toList <:+ (Path.slashed (dir.segments ++ ["services"])).toList :=
    Path.suffix_slashed (by simp)
  rw [(String.append_eq_empty_iff.mp hempty).2] at hsuffix
  exact absurd (List.suffix_nil.mp hsuffix) (by decide)

/-- A directory that is derived is never empty. -/
theorem servicesBelow_ne_empty (root : String) (moduleName : Option String) :
    servicesBelow root moduleName ≠ "" :=
  toString_services_ne_empty _

/-! ## What commands run with -/

theorem servicesDir?_eq (flags : ServiceFlags) (settings : Settings) :
    servicesDir? flags settings =
      ((filled? flags.servicesDir).or (filled? settings.servicesDir)).or
        ((filled? settings.rpcServiceDir).map fun root =>
          servicesBelow root ((filled? flags.moduleName).or settings.moduleName)) := by
  rw [servicesDir?, filled?_pick, pick_eq]
  cases (filled? flags.servicesDir).or (filled? settings.servicesDir) with
  | none => rfl
  | some dir => rfl

theorem pickPatterns_eq (flag : Option String) (setting : Option (List String)) :
    pickPatterns flag setting = (ServiceFilter.ofList? flag).or setting := by
  rw [pickPatterns]
  cases ServiceFilter.ofList? flag with
  | none => rfl
  | some patterns => rfl

theorem requestOf_eq (given : Flag → Option String) (settings : Settings) :
    requestOf ⟨given .generatedDir, given .servicesDir, given .moduleName, given .includeServices,
        given .excludeServices⟩ settings = (Choices.inForce given settings).request := by
  rw [requestOf, servicesDir?_eq]
  simp only [pick_eq, pickPatterns_eq, Option.or_some, Option.getD_some]
  rfl

/-- **A command runs with what is in force.** -/
theorem Command.run_eq (here : Location) (outcome : BufOutcome) (settings : Settings)
    (c : Command) : c.run here outcome settings =
      c.runWith here outcome settings.additionalModules (Choices.inForce c.given settings) := by
  cases c with
  | generate schemaDir flags buf executable =>
      have hrequest := requestOf_eq (Command.generate schemaDir flags buf executable).given settings
      rw [Command.run, Command.runWith, ← hrequest, pick_eq]
      rfl
  | wrappers schemaDir flags =>
      have hrequest := requestOf_eq (Command.wrappers schemaDir flags).given settings
      rw [Command.run, Command.runWith, ← hrequest]
      rfl
  | template schemaDir outputDir buf file verify =>
      rw [Command.run, Command.runWith, pick_eq, pick_eq, Option.or_some]
      rfl

/-- What is in force follows the rule for the directory of the clients exactly if what a flag or
its setting gives is not empty: what is in force never is. -/
theorem Choices.overrides_servicesDir_iff (given : Flag → Option String) (settings : Settings) :
    Overrides given settings (inForce given settings) .servicesDir ↔
      Heeded given settings .servicesDir := by
  rw [Overrides, Heeded]
  constructor
  · intro hdir hempty
    rw [hempty, Option.some_or, inForce, Option.or_eq_some_iff, Option.or_eq_some_iff] at hdir
    rcases hdir with (hflag | ⟨-, hsetting⟩) | ⟨-, hderived⟩
    · exact filled?_ne _ hflag
    · exact filled?_ne _ hsetting
    · obtain ⟨root, -, hroot⟩ := Option.map_eq_some_iff.mp hderived
      exact servicesBelow_ne_empty _ _ hroot
  · intro h
    rw [inForce, filled?_or_filled? h]

/-- What is in force follows the rule exactly if nothing is passed over. -/
theorem Choices.overrides_inForce_iff (given : Flag → Option String) (settings : Settings)
    (flag : Flag) :
    Overrides given settings (inForce given settings) flag ↔ Heeded given settings flag := by
  cases flag with
  | generatedDir | outputDir => exact filled?_getD_iff
  | servicesDir => exact overrides_servicesDir_iff given settings
  | moduleName | goPrefix => exact filled?_or_iff
  | includeServices | excludeServices => exact iff_of_true rfl trivial

/-- **Which flags override their settings.** For every command line that is read and all settings,
the command runs with what is in force. By each flag that it has it is given the text at the flag's
last place among the words, and nothing if the flag is not there; and what is in force is that text,
or else the setting, exactly if the text is not an empty one in place of a setting that is not, and
a directory for the clients is not empty. Lists of services are never passed over. -/
theorem run_overrides_iff {words : List String} {i : Invocation} (settings : Settings)
    (h : Invocation.ofWords words = .ok i) :
    ∃ options kinds, HasCommand words options kinds ∧
      (∀ here outcome, i.command.run here outcome settings =
        i.command.runWith here outcome settings.additionalModules
          (Choices.inForce i.command.given settings)) ∧
      ∀ flag : Flag, flag.option ∈ options →
        GivenAmong flag.option kinds (i.command.given flag) ∧
          (Choices.Overrides i.command.given settings
              (Choices.inForce i.command.given settings) flag ↔
            Choices.Heeded i.command.given settings flag) := by
  obtain ⟨options, kinds, hcommand, hgiven⟩ := given_of_ofWords h
  refine ⟨options, kinds, hcommand, fun here outcome => i.command.run_eq here outcome settings,
    fun flag hflag => ⟨hgiven flag hflag, ?_⟩⟩
  exact Choices.overrides_inForce_iff i.command.given settings flag

/-- A command line that asks for clients that belong to no module. -/
def withoutModule : List String := ["wrappers", "--generated-dir", "gen", "--module-name", ""]

def pimSettings : Settings := { moduleName := some "pim", rpcServiceDir := some "rpc" }

/-- The clients are put into the module of the settings all the same. -/
theorem withoutModule_not_overrides : ∃ i, Invocation.ofWords withoutModule = .ok i ∧
    (∀ here outcome, i.command.run here outcome pimSettings =
      i.command.runWith here outcome []
        ⟨"gen", pimSettings.outputDir, some "rpc/pim/services", some "pim", none, none, none⟩) ∧
    i.command.given .moduleName = some "" ∧
    ¬ Choices.Overrides i.command.given pimSettings
      (Choices.inForce i.command.given pimSettings) .moduleName := by
  have hwords : Invocation.ofWords withoutModule = .ok ⟨none, false, .wrappers none
      { generatedDir := some "gen", moduleName := some "" }⟩ := by rfl
  obtain ⟨options, kinds, hcommand, hrun, hflags⟩ := run_overrides_iff pimSettings hwords
  have hhas : moduleNameOption ∈ options := by
    obtain ⟨r, name, form, rest, hread, hr, hform, rfl, -⟩ := hcommand
    have hread' : read globalOptions true withoutModule = .ok { command := withoutModule } := by rfl
    cases hread.symm.trans hread'
    cases hr
    cases hform
    decide
  refine ⟨_, hwords, fun here outcome => ?_, rfl, fun hrule => ?_⟩
  · rw [hrun]
    rfl
  · exact absurd (((hflags .moduleName hhas).2.mp hrule) rfl) (by decide)

end ConnectClients.CommandLine
