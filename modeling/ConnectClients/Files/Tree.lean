import ConnectClients.Files.Path

/-!
# File trees

A file tree says what is at each location: a file, a directory, or nothing. The root is always a
directory. `get?` is the view of a tree; every operation is given by what it does to the view.
-/

namespace ConnectClients

inductive Item where
  | file (octets : List UInt8)
  | directory
  deriving DecidableEq, Repr

/-- The items below the root, one for each location. -/
structure FileTree where
  items : List (Location × Item) := []
  nodup : (items.map Prod.fst).Nodup := by simp
  deriving Repr

namespace FileTree

/-- What is at a location. -/
def get? (t : FileTree) (l : Location) : Option Item :=
  if l = [] then some .directory else t.items.lookup l

/-- Keeps the items at the locations that `keep` accepts. -/
def restrict (keep : Location → Bool) (t : FileTree) : FileTree where
  items := t.items.filter fun e => keep e.1
  nodup := (List.filter_sublist.map Prod.fst).nodup t.nodup

/-- Puts an item at a location. -/
def put (l : Location) (item : Item) (t : FileTree) : FileTree where
  items := (l, item) :: (t.restrict (· != l)).items
  nodup := by
    rw [List.map_cons, List.nodup_cons]
    refine ⟨?_, (t.restrict (· != l)).nodup⟩
    simp [restrict]

/-- Whether a location lies strictly below another one. -/
def isBelow (top l : Location) : Bool := top.isPrefixOf l && l != top

/-- Takes away what is at a location. -/
def erase (l : Location) (t : FileTree) : FileTree := t.restrict (· != l)

/-- Takes away what is below a location. -/
def clear (top : Location) (t : FileTree) : FileTree := t.restrict fun l => !isBelow top l

def isDirectory (t : FileTree) (l : Location) : Bool := t.get? l == some .directory

/-- The files below a location, as the segments that lead to them and their content. -/
def filesBelow (t : FileTree) (top : Location) : List (List String × List UInt8) :=
  t.items.filterMap fun (l, item) =>
    match item with
    | .file octets => if isBelow top l then some (l.drop top.length, octets) else none
    | .directory => none

/-- Puts a file, and the directories on the way to it. -/
def plant (l : Location) (octets : List UInt8) (t : FileTree) : FileTree :=
  let t := (l.upward.drop 1).foldl (fun t d => if d = [] then t else t.put d .directory) t
  t.put l (.file octets)

end FileTree

end ConnectClients
