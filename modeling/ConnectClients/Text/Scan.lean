import ConnectClients.Text.CharClass

/-!
# Reading from the front of a text

A reader takes something off the front of a text and gives what is left. `scanAll` looks for
everything a reader finds from left to right: where it finds something it goes on behind it, and
elsewhere it goes on one character further.
-/

namespace ConnectClients.Text

/-- Takes a fixed text off the front. -/
def literal? (expected : String) (cs : List Char) : Option (List Char) :=
  expected.toList.isPrefixOf? cs

/-- Takes all blanks off the front. -/
def skipBlanks (cs : List Char) : List Char :=
  cs.dropWhile isBlank

/-- Takes all blanks off the front; there must be one. -/
def blanks? (cs : List Char) : Option (List Char) :=
  match cs with
  | c :: rest => if isBlank c then some (skipBlanks rest) else none
  | [] => none

/-- Takes the longest run of characters of a class off the front; there must be one. -/
def run? (p : Char → Bool) (cs : List Char) : Option (List Char × List Char) :=
  match cs with
  | c :: rest => if p c then some (c :: rest.takeWhile p, rest.dropWhile p) else none
  | [] => none

/-- Takes one character of a class off the front. -/
def char? (p : Char → Bool) (cs : List Char) : Option (List Char) :=
  match cs with
  | c :: rest => if p c then some rest else none
  | [] => none

/-- Everything a reader finds, from left to right and without overlap. -/
def scanAll {α : Type} (read : List Char → Option (α × List Char)) : List Char → List α
  | [] => []
  | c :: cs =>
    match read (c :: cs) with
    | some (a, rest) =>
      if rest.length ≤ cs.length then a :: scanAll read rest else a :: scanAll read cs
    | none => scanAll read cs
termination_by cs => cs.length

/-- The first thing a reader finds. -/
def scanFirst? {α : Type} (read : List Char → Option (α × List Char)) :
    List Char → Option (α × List Char)
  | [] => none
  | c :: cs =>
    match read (c :: cs) with
    | some found => some found
    | none => scanFirst? read cs

/-- Whether a text stands somewhere in another one. -/
def isInfix (needle : List Char) : List Char → Bool
  | [] => needle.isEmpty
  | c :: rest => needle.isPrefixOf (c :: rest) || isInfix needle rest

end ConnectClients.Text
