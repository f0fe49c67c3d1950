import ConnectClients.Files.Operation
import ConnectClients.Yaml.Document

/-!
# YAML files
-/

namespace ConnectClients.Yaml

/-- Why a YAML file has no value. -/
inductive FileFault where
  | unreadable (fault : FileTree.ReadFault)
  | malformed
  | scalar (fault : ScalarFault)
  deriving DecidableEq, Repr

/-- What logs say of a text that is not YAML. -/
def malformedKind : String := "YAMLError"

/-- The value of a file. -/
def loadFile (t : FileTree) (here : Location) (p : Path) : Except FileFault Value :=
  match t.readText here p with
  | .error fault => .error (.unreadable fault)
  | .ok text =>
    match load text.toList with
    | .ok v => .ok v
    | .error .malformed => .error .malformed
    | .error (.scalar fault) => .error (.scalar fault)

end ConnectClients.Yaml
