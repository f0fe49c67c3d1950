import ConnectClients.Settings
import ConnectClients.Action
import ConnectClients.Yaml.File

/-!
# Settings files

The settings of a project are a mapping in a YAML file. A file without a document gives every
setting its default.
-/

namespace ConnectClients.Settings

/-- The settings that a value of a file makes. -/
def ofDocument (path : Path) : Value → Except SettingsFault Settings
  | .null => .ok {}
  | .dict fields =>
    match ofFields fields with
    | .ok settings => .ok settings
    | .wrong problems => .error (.invalid path problems)
  | v => .error (.notMapping v.kind)

/-- The settings in a file. -/
def load (here : Location) (path : Path) : Action Settings := do
  match Yaml.loadFile (← Action.tree) here path with
  | .ok v => Action.ofExcept .settings (ofDocument path v)
  | .error (.unreadable fault) => throw (.settings (.unreadable path fault))
  | .error .malformed => throw (.settings (.malformed path))
  | .error (.scalar fault) => throw (.scalar fault)

end ConnectClients.Settings
