import ConnectClients.Action
import ConnectClients.Yaml.File

/-!
# Modules of buf

A directory that holds a `buf.yaml` is a module, or a workspace of modules. The file names the
directory of the schemas and the modules these depend on. A file that cannot be read, or does not
hold a mapping, counts as an empty one.
-/

namespace ConnectClients

structure BufModule where
  root : Location
  /-- The directory of the schemas, if the file names one. -/
  schemaDir : Option Path := none
  deriving DecidableEq, Repr

namespace BufModule

def fileName : String := "buf.yaml"

/-- What the names of modules in the registry start with. -/
def registry : String := "buf.build/"

/-- The mapping in a file. -/
def document (here : Location) (p : Path) : Action Fields := do
  match Yaml.loadFile (← Action.tree) here p with
  | .ok (.dict fields) => return fields
  | .ok _ => return []
  | .error (.unreadable fault) =>
    Action.record (.warning ("Could not read " ++ p.toString ++ ": " ++ fault.kind))
    return []
  | .error .malformed =>
    Action.record (.warning ("Could not parse " ++ p.toString ++ ": " ++ Yaml.malformedKind))
    return []
  | .error (.scalar fault) => throw (.scalar fault)

/-! ## The directory of the schemas -/

def listOf (v : Option Value) : List Value :=
  match v.map Value.content with
  | some (.list items) => items
  | _ => []

def fieldsOf (v : Option Value) : Fields :=
  match v.map Value.content with
  | some (.dict fields) => fields
  | _ => []

def textOf? : Value → Option String
  | .str s => some s
  | _ => none

/-- The path that a file names: that of the first module with a path, the first root of the build,
or the root. -/
def namedPath? (fields : Fields) : Option String :=
  let modules := (listOf (Value.lookup? "modules" fields)).findSome? fun m =>
    (Value.lookup? "path" (fieldsOf (some m))).bind textOf?
  let build := fieldsOf (Value.lookup? "build" fields)
  let firstRoot := (listOf (Value.lookup? "roots" build)).head?.bind textOf?
  modules.orElse fun _ => firstRoot.orElse fun _ => (Value.lookup? "root" fields).bind textOf?

/-- The first location, from a location upwards, that holds the file. -/
def rootAbove? (t : FileTree) (start : Location) : Option Location :=
  start.upward.find? fun l => t.pathIsFile [] (l.path.child fileName)

/-- The module that a directory belongs to. A path that leads upwards is not taken. -/
def find? (here : Location) (start : Path) : Action (Option BufModule) := do
  match rootAbove? (← Action.tree) (Location.resolve here start) with
  | none => return none
  | some root =>
    let file := root.path.child fileName
    match namedPath? (← document here file) with
    | none => return some { root := root }
    | some text =>
      let named := Path.ofString text
      if named.segments.contains Path.up then
        Action.record (.warning ("Ignoring module path outside workspace in " ++ file.toString ++
          ": " ++ text))
        return some { root := root }
      return some { root := root, schemaDir := some (root.path.join named) }

/-- The directory to generate from. -/
def inputDir (m : BufModule) : Path := m.schemaDir.getD m.root.path

/-! ## Dependencies -/

/-- A module of the registry, without the commit it is pinned to. -/
def registryModule? : Value → Option String
  | .str s =>
    if registry.toList.isPrefixOf s.toList then
      some (String.ofList (Text.before ':' s.toList))
    else none
  | _ => none

/-- The modules of the registry that a file depends on. -/
def dependencies (here : Location) (file : Path) : Action (List String) := do
  if !(← Action.tree).pathIsFile here file then return []
  let fields ← document here file
  return (listOf (Value.lookup? "deps" fields)).filterMap registryModule?

end BufModule

end ConnectClients
