/-!
# Log records

What a run tells about itself beside its result.
-/

namespace ConnectClients

inductive LogLevel where
  | info
  | warning
  deriving DecidableEq, Repr

structure LogRecord where
  level : LogLevel
  text : String
  deriving DecidableEq, Repr

namespace LogRecord

def info (text : String) : LogRecord := ⟨.info, text⟩

def warning (text : String) : LogRecord := ⟨.warning, text⟩

/-- The line a record is shown as. -/
def line (r : LogRecord) : String :=
  (match r.level with
    | .info => "INFO"
    | .warning => "WARNING") ++ ": " ++ r.text

end LogRecord

end ConnectClients
