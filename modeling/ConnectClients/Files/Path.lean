import ConnectClients.Text.Split

/-!
# Paths

A path is a root, which a relative path does not have, and segments. Empty segments and single dots
mean nothing and are dropped; two dots stay, as only the files can tell where they lead.
-/

namespace ConnectClients

structure Path where
  /-- Empty for a relative path, and otherwise one slash or two. -/
  root : String := ""
  segments : List String := []
  deriving DecidableEq, Repr

namespace Path

/-- The segment that leads to the directory above. -/
def up : String := ".."

/-- Two slashes in front are a root of their own; more than two count as one. -/
def rootOf : List Char → String
  | '/' :: '/' :: '/' :: _ => "/"
  | '/' :: '/' :: _ => "//"
  | '/' :: _ => "/"
  | _ => ""

/-- Whether a piece between slashes is a segment. -/
def isSegment (piece : List Char) : Bool := !piece.isEmpty && piece != ['.']

def ofString (s : String) : Path where
  root := rootOf s.toList
  segments := ((Text.splitOn '/' s.toList).filter isSegment).map String.ofList

/-- The text of segments. -/
def slashed (segments : List String) : String := "/".intercalate segments

def toString (p : Path) : String :=
  if p.root.isEmpty && p.segments.isEmpty then "." else p.root ++ slashed p.segments

instance : ToString Path := ⟨toString⟩

/-- A path seen from another one. -/
def join (p q : Path) : Path :=
  if q.root.isEmpty then { p with segments := p.segments ++ q.segments } else q

/-- The path of something in a directory. -/
def child (p : Path) (name : String) : Path := p.join (ofString name)

/-- Paths below a path. -/
def below (p : Path) (segments : List String) : Path :=
  { p with segments := p.segments ++ segments }

/-- The path without its last segment. -/
def parent (p : Path) : Path := { p with segments := p.segments.dropLast }

/-- The root, if there is one, and the segments. -/
def parts (p : Path) : List String :=
  if p.root.isEmpty then p.segments else p.root :: p.segments

end Path

/-! ## Locations -/

/-- The names on the way from the root of the file tree. -/
abbrev Location := List String

namespace Location

/-- A location as a path. -/
def path (l : Location) : Path := ⟨"/", l⟩

/-- Goes along segments, two dots leading up, whether or not anything is there. -/
def along : Location → List String → Location
  | l, [] => l
  | l, s :: rest => if s = Path.up then along l.dropLast rest else along (l ++ [s]) rest

/-- Where a path leads from a location, judged by its segments alone. -/
def resolve (here : Location) (p : Path) : Location :=
  along (if p.root.isEmpty then here else []) p.segments

/-- A location and all those above it, from the bottom up. -/
def upward (l : Location) : List Location :=
  (List.range (l.length + 1)).reverse.map fun n => l.take n

end Location

end ConnectClients
