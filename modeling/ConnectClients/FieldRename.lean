import ConnectClients.Assoc
import ConnectClients.Identifier
import ConnectClients.Pattern.Replacement
import ConnectClients.Text.Scan

/-!
# Declared JSON names

A field of a schema may declare a JSON name of its own. `ofSchema` collects the declarations of one
schema source, from the name a field has in generated code to the name declared for it, and `apply`
renames declarations in generated code.
-/

namespace ConnectClients.FieldRename

open Text
open Pattern (ReplacementPart ReplacementFault)

/-! ## Declarations in schemas -/

/-- The quoted name behind the words `json_name` and an equals sign. -/
def readJsonName (cs : List Char) : Option (List Char × List Char) := do
  let cs ← literal? "json_name" cs
  let cs ← literal? "=" (skipBlanks cs)
  let cs ← literal? "\"" (skipBlanks cs)
  let (name, cs) ← run? isWord cs
  let cs ← literal? "\"" cs
  return (name, cs)

/-- What follows the next closing bracket on this line and a semicolon behind it. -/
def closeOptions : List Char → Option (List Char)
  | [] => none
  | ']' :: ';' :: rest => some rest
  | ']' :: rest => some rest
  | c :: rest => if c == '\n' then none else closeOptions rest

/-- The first JSON name on this line behind which a bracket closes. -/
def findJsonName : List Char → Option (List Char × List Char)
  | [] => none
  | c :: cs =>
    match (readJsonName (c :: cs)).bind fun (name, rest) =>
        (closeOptions rest).map fun rest => (name, rest) with
    | some found => some found
    | none => if c == '\n' then none else findJsonName cs

/-- A field with a JSON name among its options: its name and the JSON name. -/
def readField (cs : List Char) : Option ((List Char × List Char) × List Char) := do
  let (_, cs) ← run? isWord cs
  let cs ← blanks? cs
  let (field, cs) ← run? isWord cs
  let cs ← literal? "=" (skipBlanks cs)
  let (_, cs) ← run? isDecimal (skipBlanks cs)
  let cs ← literal? "[" (skipBlanks cs)
  let (name, cs) ← findJsonName cs
  return ((field, name), cs)

/-- The JSON names that a schema declares, by the name of the field in generated code. -/
def ofSchema (source : String) : List (String × String) :=
  Assoc.ofList <| (scanAll readField source.toList).map fun (field, name) =>
    (String.ofList (Identifier.camelCaseChars field), String.ofList name)

/-! ## Renaming in generated code -/

/-- Optional blanks and an equals sign or a colon. -/
def readMark (cs : List Char) : Option (List Char × List Char) :=
  match cs.dropWhile isBlank with
  | '=' :: rest => some (cs.takeWhile isBlank ++ ['='], rest)
  | ':' :: rest => some (cs.takeWhile isBlank ++ [':'], rest)
  | _ => none

/-- A declaration of `name`: what stands before it, at most `blanks` blanks but as many as
possible, and the mark behind it. -/
def readDeclared (name cs : List Char) : Nat → Option ((List Char × List Char) × List Char)
  | 0 => none
  | blanks + 1 =>
    match (name.isPrefixOf? (cs.drop (blanks + 1))).bind readMark with
    | some (mark, rest) => some ((cs.take (blanks + 1), mark), rest)
    | none => readDeclared name cs blanks

/-- A declaration of `name` behind blanks. -/
def readDeclaration (name cs : List Char) : Option ((List Char × List Char) × List Char) :=
  readDeclared name cs (cs.takeWhile isBlank).length

/-- The text with every declaration of `name` replaced, and the number of replacements. -/
def replaceAll (name : List Char) (template : List ReplacementPart) :
    List Char → List Char × Nat
  | [] => ([], 0)
  | c :: cs =>
    match readDeclaration name (c :: cs) with
    | some ((lead, mark), rest) =>
      let new := ReplacementPart.expand
        (fun | 1 => lead | 2 => mark | _ => lead ++ name ++ mark) template
      if rest.length ≤ cs.length then
        let (out, count) := replaceAll name template rest
        (new ++ out, count + 1)
      else
        let (out, count) := replaceAll name template cs
        (new ++ out, count + 1)
    | none =>
      let (out, count) := replaceAll name template cs
      (c :: out, count)
termination_by cs => cs.length

/-- The template that puts a new name between what stands before the old one and behind it. The new
name is itself read as a part of the template. -/
def templateText (name : String) : List Char :=
  "\\g<1>".toList ++ name.toList ++ "\\g<2>".toList

/-- Renames declarations, one name after the other, and tells whether there were any. -/
def applyChars : List (String × String) → List Char → Except ReplacementFault (List Char × Bool)
  | [], content => .ok (content, false)
  | (old, new) :: rest, content =>
    if old == new then applyChars rest content
    else do
      let template ← ReplacementPart.read 2 (templateText new)
      let (content, count) := replaceAll old.toList template content
      let (content, modified) ← applyChars rest content
      return (content, count != 0 || modified)

def apply (mappings : List (String × String)) (content : String) :
    Except ReplacementFault (String × Bool) := do
  let (out, modified) ← applyChars mappings content.toList
  return (String.ofList out, modified)

end ConnectClients.FieldRename
