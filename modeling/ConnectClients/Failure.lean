import ConnectClients.Files.Operation
import ConnectClients.Pattern.Replacement
import ConnectClients.Validation
import ConnectClients.Yaml.ScalarValue

/-!
# Failures

Everything that can end a run early, and how it is told.
-/

namespace ConnectClients

/-- Why the settings of a project could not be loaded. -/
inductive SettingsFault where
  | unreadable (path : Path) (fault : FileTree.ReadFault)
  | malformed (path : Path)
  | notMapping (kind : ValueKind)
  | invalid (path : Path) (problems : List ValidationProblem)

def SettingsFault.message : SettingsFault → String
  | .unreadable path fault =>
    "Failed to read config file " ++ path.toString ++ ": " ++ fault.message
  | .malformed path => "Failed to parse YAML in " ++ path.toString
  | .notMapping kind => "Config file must deserialize to a mapping, got " ++ kind.typeText
  | .invalid path _ => "Config validation failed for " ++ path.toString

/-- Which step of writing failed. -/
inductive WriteStep where
  | reset
  | makeDirectory
  | writeFile
  deriving DecidableEq, Repr

structure WriteFault where
  step : WriteStep
  path : Path
  fault : OsFault
  deriving DecidableEq, Repr

def WriteFault.message (f : WriteFault) : String :=
  (match f.step with
    | .reset => "Failed to reset output directory "
    | .makeDirectory => "Failed to create directory "
    | .writeFile => "Failed to write file ") ++ f.path.toString ++ ": " ++ f.fault.message

/-- Why buf did not generate. -/
inductive BufFault where
  | notStarted (executable : String) (fault : OsFault)
  /-- It ended with an error; the text is what it said, or else how it ended. -/
  | failed (template : Path) (text : String)
  deriving DecidableEq, Repr

def BufFault.message : BufFault → String
  | .notStarted executable fault =>
    "Failed to execute " ++ executable ++ " generate: " ++ fault.message
  | .failed template text => "buf generate failed for " ++ template.toString ++ ": " ++ text

inductive Failure where
  | settings (fault : SettingsFault)
  | write (fault : WriteFault)
  | buf (fault : BufFault)
  /-- The command line lacks something that the settings do not give either. -/
  | usage (message : String)
  | scalar (fault : Yaml.ScalarFault)
  | pattern (fault : Pattern.PatternFault)
  | replacement (fault : Pattern.ReplacementFault)
  | os (fault : OsFault)

end ConnectClients
