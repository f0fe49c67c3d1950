import ConnectClients.CommandLine.Command
import ConnectClients.GenTemplate.Verification
import ConnectClients.Generation
import ConnectClients.SettingsFile

/-!
# Running commands

What a command runs with is given by its options and by the settings of the project, and its result
is told line by line. A failure that the user can mend ends a command with a message and the status
two.
-/

namespace ConnectClients.CommandLine

/-! ## Options and settings -/

/-- A value from the command line, or else the one from the settings. An empty value counts as none. -/
def pick (flag setting : Option String) : Option String :=
  match flag with
  | some s => if s.isEmpty then setting else some s
  | none => setting

/-- A value that is not empty. -/
def filled? (value : Option String) : Option String :=
  value.filter fun s => !s.isEmpty

/-- The directory of a module's services among those of all modules. -/
def servicesBelow (root : String) (moduleName : Option String) : String :=
  let root := Path.ofString root
  let dir := match filled? moduleName with
    | some name => root.child name
    | none => root
  (dir.child "services").toString

/-- The directory for the clients. -/
def servicesDir? (flags : ServiceFlags) (settings : Settings) : Option String :=
  match filled? (pick flags.servicesDir settings.servicesDir) with
  | some dir => some dir
  | none =>
    (filled? settings.rpcServiceDir).map fun root =>
      servicesBelow root (pick flags.moduleName settings.moduleName)

/-- The patterns from the command line, or else those from the settings. -/
def pickPatterns (flag : Option String) (setting : Option (List String)) : Option (List String) :=
  match ServiceFilter.ofList? flag with
  | some patterns => some patterns
  | none => setting

/-- What to generate. -/
def requestOf (flags : ServiceFlags) (settings : Settings) : Except Failure Request :=
  match servicesDir? flags settings with
  | none => .error (.usage "--services-dir is required (or services_dir in the config file)")
  | some dir => .ok
    { generatedDir :=
        Path.ofString ((pick flags.generatedDir (some settings.outputDir)).getD "")
      servicesDir := Path.ofString dir
      moduleName := pick flags.moduleName settings.moduleName
      include? := pickPatterns flags.includeServices settings.includeServices
      exclude? := pickPatterns flags.excludeServices settings.excludeServices }

/-! ## Results -/

/-- How a command ended: its status, and what it put out. -/
structure CommandResult where
  status : Nat := 0
  output : String := ""
  error : Option String := none
  deriving DecidableEq, Repr

def lines (ls : List String) : String := String.join (ls.map (· ++ "\n"))

def resultLines (r : GenerationResult) : List String :=
  r.warnings.map (fun w => "Warning: " ++ w) ++
    r.services.map (fun s => "Generated " ++ s.name ++ " client") ++
    ["Total services generated: " ++ toString r.services.length]

/-- The message of a failure that the user can mend. -/
def mendable? : Failure → Option String
  | .settings fault => some fault.message
  | .write fault => some fault.message
  | .buf fault => some fault.message
  | .usage message => some message
  | _ => none

/-! ## Commands -/

def Command.run (here : Location) (outcome : BufOutcome) (settings : Settings) :
    Command → Action CommandResult
  | .generate schemaDir flags buf executable => do
    let request ← Action.ofExcept id (requestOf flags settings)
    let result ← Generation.fromSchemas here outcome request (Path.ofString schemaDir)
      { modules := settings.additionalModules ++ buf.modules
        goPrefix := pick buf.goPrefix settings.goPackagePrefix
        executable := executable }
    return { output := lines (resultLines result) }
  | .wrappers schemaDir flags => do
    let request ← Action.ofExcept id (requestOf flags settings)
    let result ← Generation.fromModules here request ((filled? schemaDir).map Path.ofString)
    return { output := lines (resultLines result) }
  | .template schemaDir outputDir buf file verify => do
    let file := Path.ofString file
    let text ← Generation.writeTemplate here (Path.ofString schemaDir)
      ((pick outputDir (some settings.outputDir)).getD "") file
      (settings.additionalModules ++ buf.modules) (pick buf.goPrefix settings.goPackagePrefix)
    let written := "Wrote " ++ file.toString
    if !verify then return { output := lines [written] }
    let problems ← Action.ofExcept .scalar (GenTemplate.verify text)
    return { status := if problems.isEmpty then 0 else 1
             output := lines [written, GenTemplate.reportText problems] }

/-- Loads the settings and runs the command. -/
def Invocation.run (here : Location) (outcome : BufOutcome) (i : Invocation) :
    Action CommandResult := do
  let settings ← match filled? i.settingsFile with
    | some file => Settings.load here (Path.ofString file)
    | none => pure {}
  i.command.run here outcome settings

/-- The records that are shown: the warnings, and the rest if it is asked for. -/
def shownRecords (verbose : Bool) (log : List LogRecord) : List LogRecord :=
  if verbose then log else log.filter fun r => r.level = .warning

/-- What a command line does. -/
def execute (here : Location) (outcome : BufOutcome) (words : List String) : Action CommandResult := do
  match Invocation.ofWords words with
  | .error .help => return {}
  | .error fault => return { status := 2, error := some fault.message }
  | .ok i =>
    let hide : Action Unit := modify fun w => { w with log := shownRecords i.verbose w.log }
    try
      let result ← i.run here outcome
      hide
      return result
    catch failure =>
      hide
      match mendable? failure with
      | some message => return { status := 2, error := some message }
      | none => throw failure

end ConnectClients.CommandLine
