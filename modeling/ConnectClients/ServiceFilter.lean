import ConnectClients.Pattern.Reader
import ConnectClients.Pattern.Matcher
import ConnectClients.Text.Split
import ConnectClients.Text.Scan

/-!
# Which services get a client

A service is generated if the include list lets it in and the exclude list does not keep it out.
An entry of a list is a pattern searched for in the service's name; an entry that is no pattern is
searched for as it stands.
-/

namespace ConnectClients

open Pattern (Node PatternFault)

/-- One entry of a list, ready to be searched for. -/
inductive ServicePattern where
  | tree (node : Node)
  | literal (text : String)

namespace ServicePattern

/-- Reads an entry. Only a count that is too large, or classes asked for in two ways, is not taken
as literal text. -/
def ofText (text : String) : Except PatternFault ServicePattern :=
  match Node.read text.toList with
  | .ok node => .ok (.tree node)
  | .error .malformed => .ok (.literal text)
  | .error fault => .error fault

def accepts (pattern : ServicePattern) (name : String) : Bool :=
  match pattern with
  | .tree node => node.occursIn name.toList.toArray
  | .literal text => Text.isInfix text.toList name.toList

end ServicePattern

namespace ServiceFilter

/-- The entry that stands for every service. -/
def wildcard : String := "*"

/-- Whether some pattern accepts the name. Patterns behind the first that does are not read. -/
def matchesAny (name : String) : List String → Except PatternFault Bool
  | [] => .ok false
  | p :: rest =>
    match ServicePattern.ofText p with
    | .error fault => .error fault
    | .ok pattern => if pattern.accepts name then .ok true else matchesAny name rest

/-- No include list lets every service in; an empty one lets none in. -/
def includes (name : String) : Option (List String) → Except PatternFault Bool
  | none => .ok true
  | some patterns =>
    if patterns.contains wildcard then .ok true else matchesAny name patterns

/-- No exclude list keeps no service out, nor does an empty one. -/
def excludes (name : String) (patterns : Option (List String)) : Except PatternFault Bool :=
  matchesAny name (patterns.getD [])

/-- Whether a service passes the include list and then the exclude list. -/
def generates (name : String) (include? exclude? : Option (List String)) :
    Except PatternFault Bool := do
  if (← includes name include?) then return !(← excludes name exclude?)
  return false

/-- The entries of a list given as one text with commas between them. Blanks around an entry are
dropped, and so is an entry that holds nothing else. -/
def ofList? (value : Option String) : Option (List String) :=
  value.map fun text =>
    ((Text.splitOn ',' text.toList).map Text.trim).filterMap fun cs =>
      if cs.isEmpty then none else some (String.ofList cs)

end ServiceFilter

end ConnectClients
