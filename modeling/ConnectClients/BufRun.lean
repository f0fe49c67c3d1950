import ConnectClients.Action
import ConnectClients.Text.Scan
import ConnectClients.Value.Printer

/-!
# Running buf

buf is a program outside of this library. What it does in a run is given by an outcome; this module
says how a run is logged and when it counts as failed.
-/

namespace ConnectClients

/-- What becomes of a call of buf. -/
inductive BufOutcome where
  | notStarted (fault : OsFault)
  /-- It writes files and ends with a status, which is negative if a signal ended it. -/
  | ended (status : Int) (output errors : String) (files : List (Location × List UInt8))

namespace BufRun

def defaultExecutable : String := "buf"

/-- The signals with a name. -/
def signalNames : List (Nat × String) :=
  [(1, "SIGHUP"), (2, "SIGINT"), (3, "SIGQUIT"), (4, "SIGILL"), (5, "SIGTRAP"), (6, "SIGABRT"),
    (7, "SIGBUS"), (8, "SIGFPE"), (9, "SIGKILL"), (10, "SIGUSR1"), (11, "SIGSEGV"),
    (12, "SIGUSR2"), (13, "SIGPIPE"), (14, "SIGALRM"), (15, "SIGTERM"), (16, "SIGSTKFLT"),
    (17, "SIGCHLD"), (18, "SIGCONT"), (19, "SIGSTOP"), (20, "SIGTSTP"), (21, "SIGTTIN"),
    (22, "SIGTTOU"), (23, "SIGURG"), (24, "SIGXCPU"), (25, "SIGXFSZ"), (26, "SIGVTALRM"),
    (27, "SIGPROF"), (28, "SIGWINCH"), (29, "SIGIO"), (30, "SIGPWR"), (31, "SIGSYS"),
    (34, "SIGRTMIN"), (64, "SIGRTMAX")]

/-- How a command ended that did not end well. -/
def statusText (command : List String) (status : Int) : String :=
  let shown := (Value.list (command.map .str)).text
  "Command '" ++ shown ++ "' " ++
    (if status < 0 then
      match signalNames.lookup status.natAbs with
      | some name => "died with <Signals." ++ name ++ ": " ++ toString status.natAbs ++ ">."
      | none => "died with unknown signal " ++ toString status.natAbs ++ "."
    else "returned non-zero exit status " ++ toString status ++ ".")

def trimText (s : String) : String := String.ofList (Text.trim s.toList)

/-- What to tell of a command that failed: its errors, or its output, or how it ended. -/
def failureText (command : List String) (status : Int) (output errors : String) : String :=
  if !(trimText errors).isEmpty then trimText errors
  else if !(trimText output).isEmpty then trimText output
  else statusText command status

/-- A warning that is no reason to warn. -/
def harmless : String := "deprecated"

/-- Generates from a template and gives what buf puts out. -/
def run (here : Location) (outcome : BufOutcome) (template dir : Path) (executable : String) :
    Action String := do
  let command := [executable, "generate", "--template", template.toString]
  Action.record (.info ("Running " ++ " ".intercalate command ++ " in " ++ dir.toString))
  let held := ((← Action.tree).readOctets here template).toOption
  modify fun w => { w with calls := w.calls ++ [⟨command, dir, held⟩] }
  match outcome with
  | .notStarted fault => throw (.buf (.notStarted executable fault))
  | .ended status output errors files =>
    modify fun w => { w with tree := files.foldl (fun t f => t.plant f.1 f.2) w.tree }
    if status ≠ 0 then
      throw (.buf (.failed template (failureText command status output errors)))
    if !errors.isEmpty && !Text.isInfix harmless.toList errors.toList then
      Action.record (.warning ("buf generate reported: " ++ trimText errors))
    return output

end BufRun

end ConnectClients
