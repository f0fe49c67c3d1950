import ConnectClients.Files.Tree
import ConnectClients.Text.Utf8
import ConnectClients.Text.Order

/-!
# Operations on files

What paths name in a file tree, seen from a directory, and the operations on it. An operation that
fails says why, and the tree stays as the operation left it.
-/

namespace ConnectClients

/-- Why an operation on files, or the start of a process, failed. -/
inductive OsFault where
  | notFound
  | argumentsTooLong
  | notExecutable
  | permission
  | busy
  | exists
  | notDirectory
  | isDirectory
  | invalid
  | nameTooLong
  | notEmpty
  deriving DecidableEq, Repr

namespace OsFault

def number : OsFault → Nat
  | .notFound => 2
  | .argumentsTooLong => 7
  | .notExecutable => 8
  | .permission => 13
  | .busy => 16
  | .exists => 17
  | .notDirectory => 20
  | .isDirectory => 21
  | .invalid => 22
  | .nameTooLong => 36
  | .notEmpty => 39

def text : OsFault → String
  | .notFound => "No such file or directory"
  | .argumentsTooLong => "Argument list too long"
  | .notExecutable => "Exec format error"
  | .permission => "Permission denied"
  | .busy => "Device or resource busy"
  | .exists => "File exists"
  | .notDirectory => "Not a directory"
  | .isDirectory => "Is a directory"
  | .invalid => "Invalid argument"
  | .nameTooLong => "File name too long"
  | .notEmpty => "Directory not empty"

/-- The kind of a fault, as logs name it. -/
def kind : OsFault → String
  | .notFound => "FileNotFoundError"
  | .permission => "PermissionError"
  | .exists => "FileExistsError"
  | .notDirectory => "NotADirectoryError"
  | .isDirectory => "IsADirectoryError"
  | _ => "OSError"

def message (fault : OsFault) : String :=
  "[Errno " ++ toString fault.number ++ "] " ++ fault.text

end OsFault

/-! ## What paths name -/

/-- The greatest size of a name. -/
def nameLimit : Nat := 255

namespace FileTree

/-- Follows segments from a location. Every step starts at a directory; what the last one leads to
need not be there. -/
def follow (t : FileTree) : Location → List String → Except OsFault Location
  | l, [] => .ok l
  | l, s :: rest =>
    match t.get? l with
    | none => .error .notFound
    | some (.file _) => .error .notDirectory
    | some .directory =>
      if s = Path.up then follow t l.dropLast rest
      else if nameLimit < s.utf8ByteSize then .error .nameTooLong
      else follow t (l ++ [s]) rest

/-- The location that a path names, seen from a directory. -/
def locate (t : FileTree) (here : Location) (p : Path) : Except OsFault Location :=
  t.follow (if p.root.isEmpty then here else []) p.segments

/-- What a path names. -/
def find? (t : FileTree) (here : Location) (p : Path) : Option Item :=
  match t.locate here p with
  | .ok l => t.get? l
  | .error _ => none

def pathExists (t : FileTree) (here : Location) (p : Path) : Bool := (t.find? here p).isSome

def pathIsDirectory (t : FileTree) (here : Location) (p : Path) : Bool :=
  t.find? here p == some .directory

def pathIsFile (t : FileTree) (here : Location) (p : Path) : Bool :=
  match t.find? here p with
  | some (.file _) => true
  | _ => false

/-- The files below a directory whose names end in `ending`, in the order of their segments. -/
def listFiles (t : FileTree) (here : Location) (dir : Path) (ending : String) :
    List (List String) :=
  match t.locate here dir with
  | .ok top =>
    if t.isDirectory top then
      Text.sortWords <| ((t.filesBelow top).map Prod.fst).filter fun segments =>
        segments.getLast?.any fun name => ending.toList.isSuffixOf name.toList
    else []
  | .error _ => []

/-! ## Reading -/

/-- Why a text could not be read. -/
inductive ReadFault where
  | os (fault : OsFault)
  | decode (fault : Text.Utf8Fault)
  deriving DecidableEq, Repr

def ReadFault.message : ReadFault → String
  | .os fault => fault.message
  | .decode fault => fault.message

/-- The kind of a fault, as logs name it. -/
def ReadFault.kind : ReadFault → String
  | .os fault => fault.kind
  | .decode _ => "UnicodeDecodeError"

def readOctets (t : FileTree) (here : Location) (p : Path) : Except OsFault (List UInt8) := do
  match t.get? (← t.locate here p) with
  | some (.file octets) => return octets
  | some .directory => throw .isDirectory
  | none => throw .notFound

/-- The text of a file, with newlines for all its line ends. -/
def readText (t : FileTree) (here : Location) (p : Path) : Except ReadFault String :=
  match t.readOctets here p with
  | .error fault => .error (.os fault)
  | .ok octets =>
    match Text.decode octets with
    | .ok text => .ok (String.ofList (Text.unifyNewlines text.toList))
    | .error fault => .error (.decode fault)

/-! ## Writing -/

/-- An operation that changes a tree and may fail. -/
abbrev Operation := EStateM OsFault FileTree

namespace Operation

def locate (here : Location) (p : Path) : Operation Location := do
  match (← get).locate here p with
  | .ok l => return l
  | .error fault => throw fault

/-- Writes a file, over the one that may be there. -/
def writeText (here : Location) (p : Path) (text : String) : Operation Unit := do
  let l ← locate here p
  if (← get).isDirectory l then throw .isDirectory
  modify (put l (.file (Text.encode text)))

/-- Makes a directory in one that is there. -/
def makeDirectory (here : Location) (p : Path) : Operation Unit := do
  let l ← locate here p
  if ((← get).get? l).isSome then throw .exists
  modify (put l .directory)

/-- Makes a directory unless it is there. -/
def makeUnlessThere (here : Location) (p : Path) : Operation Unit := do
  try makeDirectory here p
  catch
    | .notFound => throw .notFound
    | fault => if !(← get).pathIsDirectory here p then throw fault

/-- Makes a directory, and those above it that are missing, unless it is there. The segments are
given last one first. -/
def makeDirectoriesBack (here : Location) (root : String) : List String → Operation Unit
  | [] => makeUnlessThere here ⟨root, []⟩
  | s :: above => do
    let p : Path := ⟨root, (s :: above).reverse⟩
    try makeUnlessThere here p
    catch
      | .notFound => do
        makeDirectoriesBack here root above
        makeUnlessThere here p
      | fault => throw fault

def makeDirectories (here : Location) (p : Path) : Operation Unit :=
  makeDirectoriesBack here p.root p.segments.reverse

/-- Removes an empty directory. The path has to end in a name. -/
def removeDirectory (here : Location) (p : Path) : Operation Unit := do
  match p.segments.getLast? with
  | none => throw (if p.root.isEmpty then .invalid else .busy)
  | some name =>
    let _ ← locate here p
    if name = Path.up then throw .notEmpty
    modify (erase (← locate here p))

/-- Removes a directory and all that is in it. -/
def removeTree (here : Location) (p : Path) : Operation Unit := do
  let l ← locate here p
  match (← get).get? l with
  | none => throw .notFound
  | some (.file _) => throw .notDirectory
  | some .directory =>
    modify (clear l)
    removeDirectory here p

/-- Removes a file, if there is one. -/
def removeFile (here : Location) (p : Path) : Operation Unit := do
  try
    let l ← locate here p
    match (← get).get? l with
    | none => return ()
    | some .directory => throw .isDirectory
    | some (.file _) => modify (erase l)
  catch
    | .notFound => return ()
    | fault => throw fault

/-- Leaves a directory with nothing in it. -/
def resetDirectory (here : Location) (p : Path) : Operation Unit := do
  if (← get).pathExists here p then removeTree here p
  makeDirectories here p

end Operation

end FileTree

end ConnectClients
