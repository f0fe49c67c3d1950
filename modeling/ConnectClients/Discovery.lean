import ConnectClients.Service
import ConnectClients.Action

/-!
# Finding files

Which files of a tree are generated modules, which of them declare types or services, and which
files are schemas.
-/

namespace ConnectClients.Discovery

/-- What the names of generated modules end in. -/
def moduleEnding : String := "_pb.ts"

def schemaEnding : String := ".proto"

/-- Directories with modules of others. -/
def thirdPartyDirs : List String :=
  ["google", "buf", "connect", "protoc-gen-openapiv2", "validate", "relay"]

/-- Whether one of the directories on a path holds modules of others. -/
def isThirdParty (parts : List String) : Bool :=
  parts.dropLast.any thirdPartyDirs.contains

/-- The generated modules below a directory, as the segments that lead to them. -/
def modules (t : FileTree) (here : Location) (dir : Path) : List (List String) :=
  t.listFiles here dir moduleEnding

/-- The schemas below a directory. -/
def schemas (t : FileTree) (here : Location) (dir : Path) : List (List String) :=
  t.listFiles here dir schemaEnding

/-- A path without the suffix of its last segment. -/
def withoutSuffix (segments : List String) : String :=
  let text := Path.slashed segments
  String.ofList ((Text.dropSuffix? ".ts".toList text.toList).getD text.toList)

/-- The modules whose types the index lists, in order. -/
def typeFiles (t : FileTree) (here : Location) (dir : Path) : List String :=
  Text.sortTexts (((modules t here dir).filter fun m => !isThirdParty m).map withoutSuffix)

/-- The modules that declare services. One that cannot be read is passed over. -/
def serviceFiles (here : Location) (dir : Path) : Action (List (List String)) := do
  let t ← Action.tree
  (modules t here dir).filterM fun m => do
    match t.readText here (dir.below m) with
    | .ok content => return Service.isMarked content
    | .error fault =>
      Action.record (.warning ("Skipping unreadable generated module " ++ (dir.below m).toString ++
        ": " ++ fault.kind))
      return false

end ConnectClients.Discovery
