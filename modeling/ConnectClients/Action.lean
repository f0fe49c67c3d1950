import ConnectClients.Failure
import ConnectClients.Log

/-!
# Actions

An action works on a file tree, keeps a log and calls buf. An action that fails leaves everything as
it was at that moment.
-/

namespace ConnectClients

/-- A call of buf: the command, the directory it runs in, and what the template held. -/
structure BufCall where
  command : List String
  directory : Path
  template : Option (List UInt8)
  deriving DecidableEq, Repr

/-- What actions change. -/
structure Workspace where
  tree : FileTree
  log : List LogRecord := []
  calls : List BufCall := []

abbrev Action := EStateM Failure Workspace

namespace Action

variable {α ε : Type}

def tree : Action FileTree := do return (← get).tree

def record (r : LogRecord) : Action Unit :=
  modify fun w => { w with log := w.log ++ [r] }

/-- An operation on the files, whose fault becomes a failure. -/
def operate (wrap : OsFault → Failure) (op : FileTree.Operation α) : Action α := fun w =>
  match op w.tree with
  | .ok a t => .ok a { w with tree := t }
  | .error fault t => .error (wrap fault) { w with tree := t }

def ofExcept (wrap : ε → Failure) : Except ε α → Action α
  | .ok a => pure a
  | .error fault => throw (wrap fault)

end Action

end ConnectClients
