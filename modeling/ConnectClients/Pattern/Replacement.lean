import ConnectClients.Pattern.Reader

/-!
# Replacement templates

A template is text in which `\1` or `\g<1>` stands for what a group matched. Other backslashes start
escapes.
-/

namespace ConnectClients.Pattern

/-- A piece of a template. -/
inductive ReplacementPart where
  | text (c : List Char)
  | group (index : Nat)
  deriving DecidableEq, Repr

/-- Why a text is no template. -/
inductive ReplacementFault where
  | malformed
  /-- A group is named that the pattern does not have. -/
  | unknownGroup (name : String)
  deriving DecidableEq, Repr

namespace ReplacementPart

/-- What is known while a template is read: the token to come and the text behind it. -/
abbrev TemplateRead := StateT Source (Except ReplacementFault)

def advance (cs : List Char) : Except ReplacementFault Source :=
  match Source.ofText cs with
  | .ok source => .ok source
  | .error _ => .error .malformed

def takeToken : TemplateRead (Option Token) := do
  let source ← get
  set (← advance source.rest)
  return source.next

/-- The next token if it is a character of a class. -/
def takeIf (p : Char → Bool) : TemplateRead (Option Char) := do
  match (← get).next with
  | some (.plain c) =>
    if p c then
      let _ ← takeToken
      return some c
    return none
  | _ => return none

/-- The text up to a closing angle bracket, which is taken too. -/
def takeName : Nat → TemplateRead (List Char)
  | 0 => throw .malformed
  | fuel + 1 => do
    match (← takeToken) with
    | none => throw .malformed
    | some t => if t == .plain '>' then return [] else return t.text ++ (← takeName fuel)

/-- A reference to one of the groups up to `groups`. -/
def reference (groups index : Nat) : TemplateRead ReplacementPart := do
  if groups < index then throw .malformed
  return .group index

/-- A group in angle brackets; no pattern that is replaced here names its groups. -/
def readNamed (groups : Nat) : TemplateRead ReplacementPart := do
  if (← takeIf (· == '<')).isNone then throw .malformed
  let name ← takeName ((← get).rest.length + 2)
  if Text.isName name then throw (.unknownGroup (String.ofList name))
  match Text.readInteger? 10 name with
  | some (.ofNat n) => reference groups n
  | _ => throw .malformed

/-- A digit other than zero: three octal digits are a character, else it is a group. -/
def readNumbered (groups : Nat) (c : Char) : TemplateRead ReplacementPart := do
  match (← takeIf Char.isDigit) with
  | none => reference groups (digitsValue 10 [c])
  | some d =>
    let third ← if isOctal c && isOctal d then takeIf isOctal else pure none
    match third with
    | some e =>
      let n := digitsValue 8 [c, d, e]
      if 0o377 < n then throw .malformed
      return .text [Char.ofNat n]
    | none => reference groups (digitsValue 10 [c, d])

def readEscaped (groups : Nat) (c : Char) : TemplateRead ReplacementPart := do
  if c == 'g' then return (← readNamed groups)
  if c == '0' then
    match (← takeIf isOctal) with
    | none => return .text [Char.ofNat 0]
    | some d =>
      match (← takeIf isOctal) with
      | none => return .text [Char.ofNat (digitsValue 8 [d])]
      | some e => return .text [Char.ofNat (digitsValue 8 [d, e])]
  if c.isDigit then return (← readNumbered groups c)
  match letterEscape? c with
  | some n => return .text [Char.ofNat n]
  | none => if c.isAlpha then throw .malformed else return .text ['\\', c]

def readParts (groups : Nat) : Nat → TemplateRead (List ReplacementPart)
  | 0 => return []
  | fuel + 1 => do
    match (← takeToken) with
    | none => return []
    | some (.plain c) => return .text [c] :: (← readParts groups fuel)
    | some (.escaped c) =>
      let part ← readEscaped groups c
      return part :: (← readParts groups fuel)

/-- Reads a template for a pattern with the given number of groups. -/
def read (groups : Nat) (text : List Char) : Except ReplacementFault (List ReplacementPart) := do
  let source ← advance text
  let (parts, _) ← (readParts groups (text.length + 2)).run source
  return parts

/-- The text that stands for a match whose groups hold the given texts. -/
def expand (groups : Nat → List Char) (parts : List ReplacementPart) : List Char :=
  parts.flatMap fun
    | .text cs => cs
    | .group i => groups i

end ReplacementPart

end ConnectClients.Pattern
