import ConnectClients.CommandLine.Run

/-!
# The program

Takes a picture of the files that a command line can reach, runs the command on it, and carries out
on the disk what the command did to the picture. The program starts no other programs, so that buf
counts as not found.
-/

namespace ConnectClients.Program

/-- What is needed of a disk: the names in a directory, the octets of a file, and the place of a name
in a directory. -/
structure Disk (Place : Type) where
  isDirectory : Place → IO Bool
  isThere : Place → IO Bool
  names : Place → IO (List String)
  octets : Place → IO (List UInt8)
  child : Place → String → Place

variable {Place : Type}

/-- Adds to a picture what is at a place. -/
partial def picture (disk : Disk Place) (place : Place) (l : Location) (t : FileTree) :
    IO FileTree := do
  if ← disk.isDirectory place then
    let mut t := if l.isEmpty then t else t.put l .directory
    for name in ← disk.names place do
      t ← picture disk (disk.child place name) (l ++ [name]) t
    return t
  return t.put l (.file (← disk.octets place))

/-- Adds the directories above a location. -/
def directoriesAbove (l : Location) (t : FileTree) : FileTree :=
  (l.upward.drop 1).foldl (fun t d => if d.isEmpty then t else t.put d .directory) t

/-- The absolute paths that words name, alone or behind an equals sign. -/
def namedPaths (words : List String) : List Location :=
  words.filterMap fun word =>
    let value := match word.toList.dropWhile (· != '=') with
      | _ :: value => String.ofList value
      | [] => word
    let p := Path.ofString value
    if p.root.isEmpty || p.segments.isEmpty then none else some (Location.resolve [] p)

/-- The picture of all that a command line can reach: what it names, the working directory, and the
module files above it. -/
def reachable (disk : Disk Place) (top : Place) (here : Location) (words : List String) :
    IO FileTree := do
  let placeOf (l : Location) : Place := l.foldl disk.child top
  let files := here.upward.map (· ++ [BufModule.fileName])
  let mut t : FileTree := {}
  for l in here :: namedPaths words ++ files do
    let place := placeOf l
    if ← disk.isThere place then
      t ← picture disk place l (directoriesAbove l t)
  return t

/-- The locations that are in one tree and not in another one. -/
def lost (old new : FileTree) : List Location :=
  (old.items.map Prod.fst).filter fun l => (new.get? l).isNone

/-- The items of a tree that another one does not have, those higher up first. -/
def gained (old new : FileTree) : List (Location × Item) :=
  (new.items.filter fun (l, item) => old.get? l ≠ some item).mergeSort fun a b =>
    decide (a.1.length ≤ b.1.length)

/-- Carries out a change on the disk. -/
def carryOut (old new : FileTree) : IO Unit := do
  for l in lost old new do
    if (new.get? l.dropLast).isSome then
      let path := l.path.toString
      if old.isDirectory l then IO.FS.removeDirAll path else IO.FS.removeFile path
  for (l, item) in gained old new do
    match item with
    | .directory => IO.FS.createDirAll l.path.toString
    | .file octets => IO.FS.writeBinFile l.path.toString ⟨octets.toArray⟩

/-- What a failure that is no fault of the user's is told as. -/
def failureText : Failure → String
  | .scalar fault => fault.message
  | .os fault => fault.message
  | .pattern _ => "a pattern cannot be read"
  | .replacement _ => "a JSON name cannot be read"
  | failure => (CommandLine.mendable? failure).getD ""

def name : String := "proto-to-ts-generator"

/-- Runs a command line in the working directory. -/
def run (words : List String) : IO UInt32 := do
  let current ← IO.currentDir
  let here := (Path.ofString current.toString).segments
  let disk := Disk.mk (fun p => p.isDir) (fun p => p.pathExists)
    (fun p => do return (← p.readDir).toList.map fun entry => entry.fileName)
    (fun p => do return (← IO.FS.readBinFile p).toList) (fun p name => p / name)
  let old ← reachable disk (current / "/") here words
  let (result, w) := match (CommandLine.execute here (.notStarted .notFound) words).run
      { tree := old } with
    | .ok result w => (Except.ok result, w)
    | .error failure w => (Except.error failure, w)
  carryOut old w.tree
  for r in w.log do IO.eprintln r.line
  match result with
  | .ok r =>
    IO.print r.output
    if let some message := r.error then IO.eprintln (name ++ ": error: " ++ message)
    return r.status.toUInt32
  | .error failure =>
    IO.eprintln (name ++ ": " ++ failureText failure)
    return 1

end ConnectClients.Program

def main (words : List String) : IO UInt32 := ConnectClients.Program.run words
