import ConnectClients.Value
import ConnectClients.Text.Utf8
import ConnectClients.Value.Printer

/-!
# Checking values against a form

A check turns a document value into a value of a fixed form, or says all that is wrong with it.
Problems come in the order in which the form names its parts, and a problem inside a part says
where in the part it is.
-/

namespace ConnectClients

inductive ProblemKind where
  | stringType
  | stringUnicode
  | listType
  | modelType
  | boolType
  | boolParsing
  | missing
  /-- A field the form does not know. -/
  | extraForbidden
  /-- A key that is no text. -/
  | invalidKey
  deriving DecidableEq, Repr

structure ValidationProblem where
  path : List PathStep
  kind : ProblemKind
  deriving DecidableEq, Repr

/-- A checked value, or all that is wrong with it. -/
inductive Checked (α : Type) where
  | ok (value : α)
  | wrong (problems : List ValidationProblem)
  deriving Repr

namespace Checked

variable {α β : Type}

def problems : Checked α → List ValidationProblem
  | .ok _ => []
  | .wrong ps => ps

def map (f : α → β) : Checked α → Checked β
  | .ok a => .ok (f a)
  | .wrong ps => .wrong ps

/-- Applies a checked function to a checked value; the problems of both are kept in order. -/
def apply (f : Checked (α → β)) (a : Checked α) : Checked β :=
  match f, a with
  | .ok f, .ok a => .ok (f a)
  | f, a => .wrong (f.problems ++ a.problems)

instance : Applicative Checked where
  pure := .ok
  seq f a := f.apply (a ())

/-- A check of a part, seen from the whole. -/
def under (step : PathStep) : Checked α → Checked α
  | .ok a => .ok a
  | .wrong ps => .wrong (ps.map fun p => { p with path := step :: p.path })

def fail (kind : ProblemKind) : Checked α := .wrong [⟨[], kind⟩]

def toExcept : Checked α → Except (List ValidationProblem) α
  | .ok a => .ok a
  | .wrong ps => .error ps

end Checked

namespace Value

/-- A text. Octets are taken as the text they encode. -/
def asText : Value → Checked String
  | .str s => .ok s
  | .brokenStr _ => .fail .stringUnicode
  | .bytes octets =>
    match Text.decode octets with
    | .ok s => .ok s
    | .error _ => .fail .stringUnicode
  | _ => .fail .stringType

/-- The words for the two logical values. -/
def switchWord? (s : String) : Option Bool :=
  let word := String.ofList (s.toList.map Char.toLower)
  if ["1", "on", "t", "true", "y", "yes"].contains word then some true
  else if ["0", "off", "f", "false", "n", "no"].contains word then some false
  else none

/-- The greatest number of machine size. -/
def wordLimit : Int := Nat.pow 2 63

/-- A logical value, which one and zero and a few words stand for as well. -/
def asSwitch : Value → Checked Bool
  | .bool b => .ok b
  | .str s =>
    match switchWord? s with
    | some b => .ok b
    | none => .fail .boolParsing
  | .bytes octets =>
    match (Text.decode octets).toOption.bind switchWord? with
    | some b => .ok b
    | none => .fail .boolParsing
  | v@(.int _) | v@(.float _) =>
    match v.number? with
    | some n =>
      if n = 0 then .ok false
      else if n = 1 then .ok true
      else if -wordLimit ≤ n ∧ n < wordLimit then .fail .boolParsing
      else .fail .boolType
    | none => .fail .boolType
  | .brokenStr _ => .fail .boolParsing
  | _ => .fail .boolType

/-- Checks the items of a list one after the other, from an index on. -/
def checkItems {α : Type} (check : Value → Checked α) : Nat → List Value → Checked (List α)
  | _, [] => .ok []
  | i, v :: rest =>
    (List.cons <$> (check v).under (.index i)) <*> checkItems check (i + 1) rest

/-- A list of parts of one form. -/
def asList {α : Type} (check : Value → Checked α) (v : Value) : Checked (List α) :=
  match v.content with
  | .list items | .set items => checkItems check 0 items
  | .pair a b => checkItems check 0 [a, b]
  | _ => .fail .listType

/-- A part that may be null. -/
def orNull {α : Type} (check : Value → Checked α) : Value → Checked (Option α)
  | .null => .ok none
  | v => (check v).map some

end Value

/-- The entries of a mapping, to be checked field by field. -/
abbrev Fields := List (Value × Value)

namespace Fields

variable {α : Type}

/-- Fields as the entries of a mapping. -/
def named (fields : List (String × Value)) : Fields :=
  fields.map fun f => (.str f.1, f.2)

/-- A field that must be there. -/
def required (name : String) (check : Value → Checked α) (fields : Fields) : Checked α :=
  (match Value.lookup? name fields with
    | some v => check v
    | none => .fail .missing).under (.field name)

/-- A field that takes a default where it is missing. -/
def withDefault (name : String) (default : α) (check : Value → Checked α) (fields : Fields) :
    Checked α :=
  match Value.lookup? name fields with
  | some v => (check v).under (.field name)
  | none => .ok default

/-- A field that may be missing or null. -/
def optional (name : String) (check : Value → Checked α) (fields : Fields) : Checked (Option α) :=
  fields.withDefault name none (Value.orNull check)

/-- How a key is named in a path: a number of machine size by its value, and anything else by its
text. -/
def stepOf : Value → PathStep
  | .int n =>
    if -Value.wordLimit ≤ n ∧ n < Value.wordLimit then .index n else .field (toString n)
  | .bool b => .index (if b then 1 else 0)
  | v => .field v.plainText

/-- The problems with the keys, for a form that knows the given fields and no others. -/
def extraProblems (known : List String) (fields : Fields) : List ValidationProblem :=
  fields.filterMap fun (k, _) =>
    match k with
    | .str name => if known.contains name then none else some ⟨[.field name], .extraForbidden⟩
    | _ => some ⟨[stepOf k], .invalidKey⟩

/-- A checked form, with the problems of the keys it does not know behind its own. -/
def closed (known : List String) (fields : Fields) (form : Checked α) : Checked α :=
  match extraProblems known fields with
  | [] => form
  | extra => .wrong (form.problems ++ extra)

end Fields

/-- A mapping of a fixed form. -/
def Value.asForm {α : Type} (form : Fields → Checked α) (v : Value) : Checked α :=
  match v.content with
  | .dict entries => form entries
  | _ => .fail .modelType

end ConnectClients
