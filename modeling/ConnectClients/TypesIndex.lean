import ConnectClients.Assoc
import ConnectClients.Identifier

/-!
# The types index

The types index imports every generated module under an alias of its own and re-exports it from the
namespace of its module key. Names that would clash get the least number, from two on, that makes
them free.
-/

namespace ConnectClients

/-- One generated module in the index. -/
structure TypeEntry where
  filePath : String
  moduleKey : String
  typeName : String
  exportName : String
  aliasName : String
  deriving DecidableEq, Repr

/-- The entries of one module key. -/
structure NamespaceGroup where
  moduleKey : String
  namespaceName : String
  entries : List TypeEntry
  deriving DecidableEq, Repr

namespace TypesIndex

/-! ## Free names -/

/-- The name itself and then the name with the numbers two, three and so on behind it; as many
candidates as can be needed when `count` names are taken. -/
def candidates (name : String) (count : Nat) : List String :=
  name :: (List.range count).map fun i => name ++ toString (i + 2)

/-- The first candidate that is not taken. -/
def freeName (taken : List String) (name : String) : String :=
  ((candidates name taken.length).find? fun c => !taken.contains c).getD name

/-! ## Grouping -/

/-- What has been given out so far. -/
structure Builder where
  /-- The module key and the type name of every path so far. -/
  seen : List (String × String) := []
  aliases : List String := []
  exports : List (String × String) := []
  groups : List (String × List TypeEntry) := []

namespace Builder

def claimAlias (b : Builder) (name : String) : String × Builder :=
  let free := freeName b.aliases name
  (free, { b with aliases := free :: b.aliases })

/-- The export names given out in one module. -/
def exportsOf (b : Builder) (moduleKey : String) : List String :=
  (b.exports.filter (·.1 == moduleKey)).map (·.2)

def claimExport (b : Builder) (moduleKey name : String) : String × Builder :=
  let free := freeName (b.exportsOf moduleKey) name
  (free, { b with exports := (moduleKey, free) :: b.exports })

/-- The number behind the second and every later path with one type name in one module. -/
def occurrenceSuffix (b : Builder) (moduleKey typeName : String) : String :=
  match b.seen.count (moduleKey, typeName) with
  | 0 => ""
  | n => toString (n + 1)

def add (b : Builder) (path : String) : Builder :=
  let key := Identifier.moduleKey path
  let type := Identifier.typeName path
  let suffix := b.occurrenceSuffix key type
  let (exportName, b) := b.claimExport key (type ++ suffix)
  let (aliasName, b) := b.claimAlias (Identifier.importAlias path ++ suffix)
  { b with
    seen := (key, type) :: b.seen
    groups := Assoc.append key ⟨path, key, type, exportName, aliasName⟩ b.groups }

end Builder

/-- The namespace of paths without a module key. -/
def rootNamespace : String := "Root"

def namespaceOf (moduleKey : String) : String :=
  if moduleKey.isEmpty then rootNamespace else Identifier.canonicalCase moduleKey

/-- Gives out a namespace besides those taken, and takes it. -/
def claimNamespace (taken : List String) (name : String) : String × List String :=
  let free := freeName taken name
  (free, free :: taken)

/-- Gives every group a namespace of its own, besides those taken. -/
def nameGroups (taken : List String) : List (String × List TypeEntry) → List NamespaceGroup
  | [] => []
  | (key, entries) :: rest =>
    let claimed := claimNamespace taken (namespaceOf key)
    ⟨key, claimed.1, entries⟩ :: nameGroups claimed.2 rest

/-- The paths, each once, grouped by their module keys. Groups and the entries in them stand in the
order of their first appearance. -/
def group (paths : List String) : List NamespaceGroup :=
  nameGroups [] ((Assoc.distinct paths).foldl Builder.add {}).groups

/-! ## The index file -/

def header : List String :=
  ["// Types Index - Auto-generated type aggregation",
   "// DO NOT EDIT: This file is automatically generated"]

def usage : List String :=
  ["//",
   "// This file aggregates all protobuf-generated types using nested namespaces",
   "// grouped by module.",
   "// Each module (e.g., models, product, common) becomes a namespace containing its types.",
   "//",
   "// Usage:",
   "//   import \x7b Models, Product, Common \x7d from '@/api/rpc-service/pim/types'",
   "//   type C1 = Models.Category.Category",
   "//   type C2 = Product.Category.Category",
   "//   type E = Common.Error.Error"]

/-- The directory of generated modules, seen from the index. -/
def generatedDir : String := "../generated"

def importLine (groups : List NamespaceGroup) (path : String) : String :=
  let name := ((groups.flatMap (·.entries)).find? (·.filePath == path)).elim "" (·.aliasName)
  "import * as " ++ name ++ " from '" ++ generatedDir ++ "/" ++ path ++ "'"

def exportLine (entry : TypeEntry) : String :=
  "  export import " ++ entry.exportName ++ " = " ++ entry.aliasName

def renderGroup (group : NamespaceGroup) : String :=
  "\n".intercalate
    (["export namespace " ++ group.namespaceName ++ " \x7b"] ++ group.entries.map exportLine ++ ["\x7d"])

/-- The text of the index file. -/
def render (paths : List String) : String :=
  if paths.isEmpty then
    Text.unlines (header ++ ["", "// No type files found; no types found to aggregate", "export \x7b\x7d"])
  else
    let groups := group paths
    Text.unlines (header ++ usage ++ [""] ++ (Assoc.distinct paths).map (importLine groups) ++
      ["", "\n\n".intercalate (groups.map renderGroup)])

end TypesIndex

end ConnectClients
