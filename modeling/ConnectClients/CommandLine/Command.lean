import ConnectClients.BufRun
import ConnectClients.CommandLine.Words

/-!
# Commands

What can be asked for on the command line: to generate from schemas, to write the clients of modules
that are there, or to write the template that buf generates from.
-/

namespace ConnectClients.CommandLine

/-- The options about services. -/
structure ServiceFlags where
  generatedDir : Option String := none
  servicesDir : Option String := none
  moduleName : Option String := none
  includeServices : Option String := none
  excludeServices : Option String := none
  deriving DecidableEq, Repr

/-- The options about what buf reads. -/
structure BufFlags where
  modules : List String := []
  goPrefix : Option String := none
  deriving DecidableEq, Repr

inductive Command where
  | generate (schemaDir : String) (services : ServiceFlags) (buf : BufFlags) (executable : String)
  | wrappers (schemaDir : Option String) (services : ServiceFlags)
  | template (schemaDir : String) (outputDir : Option String) (buf : BufFlags) (file : String)
      (verify : Bool)
  deriving DecidableEq, Repr

/-- A command and the options that stand before it. -/
structure Invocation where
  settingsFile : Option String
  verbose : Bool
  command : Command
  deriving DecidableEq, Repr

/-! ## Options -/

def valued (name : String) : OptionSpec := { names := [name] }

def switch (name : String) : OptionSpec := { names := [name], takesValue := false }

def settingsOption : OptionSpec := valued "--config"
def verboseOption : OptionSpec := switch "--verbose"
def schemaDirOption : OptionSpec := valued "--proto-dir"
def neededSchemaDir : OptionSpec := { schemaDirOption with required := true }
def generatedDirOption : OptionSpec := valued "--generated-dir"
def servicesDirOption : OptionSpec := valued "--services-dir"
def moduleNameOption : OptionSpec := valued "--module-name"
def includeOption : OptionSpec := valued "--include-services"
def excludeOption : OptionSpec := valued "--exclude-services"
def moduleOption : OptionSpec := valued "--buf-dep"
def goPrefixOption : OptionSpec := valued "--go-package-prefix"
def executableOption : OptionSpec := valued "--buf"
def outputDirOption : OptionSpec := valued "--output-dir"
def fileOption : OptionSpec := valued "--out"
def verifyOption : OptionSpec := switch "--verify"

def globalOptions : List OptionSpec := [settingsOption, verboseOption]

def serviceOptions : List OptionSpec :=
  [generatedDirOption, servicesDirOption, moduleNameOption, includeOption, excludeOption]

def bufOptions : List OptionSpec := [moduleOption, goPrefixOption]

def serviceFlags (r : Reading) : ServiceFlags :=
  ⟨r.value? generatedDirOption, r.value? servicesDirOption, r.value? moduleNameOption,
    r.value? includeOption, r.value? excludeOption⟩

def bufFlags (r : Reading) : BufFlags := ⟨r.values moduleOption, r.value? goPrefixOption⟩

/-- The file that a template is written to if no other one is named. -/
def defaultTemplate : String := "buf.gen.yaml"

/-! ## Reading commands -/

/-- How a command is read: its options, and the command they make. -/
structure CommandForm where
  options : List OptionSpec
  make : Reading → Command

def commandForms : List (String × CommandForm) :=
  [("generate",
      { options := [neededSchemaDir] ++ serviceOptions ++ bufOptions ++ [executableOption]
        make := fun r =>
          .generate ((r.value? neededSchemaDir).getD "") (serviceFlags r) (bufFlags r)
            ((r.value? executableOption).getD BufRun.defaultExecutable) }),
    ("wrappers",
      { options := schemaDirOption :: serviceOptions
        make := fun r => .wrappers (r.value? schemaDirOption) (serviceFlags r) }),
    ("buf-gen",
      { options :=
          [neededSchemaDir, outputDirOption] ++ bufOptions ++ [fileOption, verifyOption]
        make := fun r =>
          .template ((r.value? neededSchemaDir).getD "") (r.value? outputDirOption) (bufFlags r)
            ((r.value? fileOption).getD defaultTemplate) (r.isGiven verifyOption) })]

/-- The command that words make, and the words that are none of it. -/
def readCommand (name : String) (words : List String) :
    Except UsageFault (Command × List String) := do
  match commandForms.lookup name with
  | none => throw (.unknownCommand name (commandForms.map Prod.fst))
  | some form =>
    let r ← read form.options false words
    match missingOptions form.options r with
    | [] => return (form.make r, r.extras)
    | names => throw (.missing names)

/-- What a command line asks for. -/
def Invocation.ofWords (words : List String) : Except UsageFault Invocation := do
  let r ← read globalOptions true words
  match r.command with
  | [] => throw (.missing ["command"])
  | name :: rest =>
    let (command, extras) ← readCommand name rest
    match r.extras ++ extras with
    | [] => return ⟨r.value? settingsOption, r.isGiven verboseOption, command⟩
    | extras => throw (.unknownWords extras)

end ConnectClients.CommandLine
