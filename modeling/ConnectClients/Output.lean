import ConnectClients.ClientModule
import ConnectClients.Action

/-!
# Writing output

Every file of the output is written here. The module that all clients share is written only where
none is.
-/

namespace ConnectClients.Output

open FileTree

/-- The index of a directory. -/
def indexName : String := "index.ts"

/-- The module that all clients share. -/
def transportName : String := "connect-client.ts"

/-- Leaves a directory with nothing in it. -/
def reset (here : Location) (dir : Path) : Action Unit :=
  Action.operate (fun fault => .write ⟨.reset, dir, fault⟩) (Operation.resetDirectory here dir)

def makeDirectories (here : Location) (dir : Path) : Action Unit :=
  Action.operate (fun fault => .write ⟨.makeDirectory, dir, fault⟩)
    (Operation.makeDirectories here dir)

def writeFile (here : Location) (path : Path) (text : String) : Action Unit :=
  Action.operate (fun fault => .write ⟨.writeFile, path, fault⟩) (Operation.writeText here path text)

/-- Writes a file and makes the directories it needs. -/
def writeText (here : Location) (path : Path) (text : String) : Action Unit := do
  makeDirectories here path.parent
  writeFile here path text

/-- Writes a file into a directory that is there, and gives its path. -/
def writeInto (here : Location) (dir : Path) (name text : String) : Action Path := do
  let path := dir.child name
  writeFile here path text
  return path

def writeClient (here : Location) (dir : Path) (entry : ClientEntry) (text : String) : Action Path :=
  writeInto here dir entry.fileName text

def writeServicesIndex (here : Location) (dir : Path) (text : String) : Action Path :=
  writeInto here dir indexName text

def writeTypesIndex (here : Location) (dir : Path) (text : String) : Action Path := do
  makeDirectories here dir
  writeInto here dir indexName text

/-- Writes the shared module unless there is one. -/
def writeTransport (here : Location) (dir : Path) (text : String) : Action Path := do
  let path := dir.child transportName
  if (← Action.tree).pathExists here path then return path
  makeDirectories here dir
  writeInto here dir transportName text

end ConnectClients.Output
