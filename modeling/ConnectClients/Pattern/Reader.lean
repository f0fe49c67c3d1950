import ConnectClients.Pattern.Node
import ConnectClients.Text.CharName
import ConnectClients.Text.IntegerLiteral

/-!
# Reading a pattern

`Node.read` turns the text of a pattern into its tree. A text that is no pattern is refused; three
refusals are told apart from the rest because a caller treats them differently.
-/

namespace ConnectClients.Pattern

/-- Why a text is no pattern. -/
inductive PatternFault where
  /-- The text is not written as a pattern. -/
  | malformed
  /-- A repetition count is 2^32 - 1 or more. -/
  | countTooLarge
  /-- A repetition count is written with too many digits to be read. -/
  | countTooLong (digits : Nat)
  /-- The pattern asks for ASCII classes and for full classes. -/
  | asciiAndFull
  deriving DecidableEq, Repr

/-! ## Modes -/

/-- The switches in force at a place of the pattern. -/
structure Mode where
  ignoreCase : Bool := false
  multiline : Bool := false
  dotAll : Bool := false
  verbose : Bool := false
  ascii : Bool := false
  full : Bool := false
  template : Bool := false
  deriving DecidableEq, Repr

namespace Mode

def fold (m : Mode) : Fold :=
  if m.ignoreCase then (if m.ascii then .ascii else .full) else .exact

/-- The mode with one switch turned on; `none` if the letter is no switch. -/
def turnOn (m : Mode) : Char → Option Mode
  | 'i' => some { m with ignoreCase := true }
  | 'm' => some { m with multiline := true }
  | 's' => some { m with dotAll := true }
  | 'x' => some { m with verbose := true }
  | 'a' => some { m with ascii := true }
  | 'u' => some { m with full := true }
  | 't' => some { m with template := true }
  | _ => none

/-- The switches of either mode. -/
def union (m n : Mode) : Mode :=
  ⟨m.ignoreCase || n.ignoreCase, m.multiline || n.multiline, m.dotAll || n.dotAll,
    m.verbose || n.verbose, m.ascii || n.ascii, m.full || n.full, m.template || n.template⟩

/-- The mode inside a group that turns `on` and `off` switches. Asking for one kind of classes
ends the other. -/
def within (m on off : Mode) : Mode :=
  { ignoreCase := (m.ignoreCase || on.ignoreCase) && !off.ignoreCase
    multiline := (m.multiline || on.multiline) && !off.multiline
    dotAll := (m.dotAll || on.dotAll) && !off.dotAll
    verbose := (m.verbose || on.verbose) && !off.verbose
    ascii := (m.ascii && !on.full) || on.ascii
    full := (m.full && !on.ascii) || on.full
    template := m.template }

/-- Some switch is on in both. -/
def overlaps (m n : Mode) : Bool :=
  (m.ignoreCase && n.ignoreCase) || (m.multiline && n.multiline) || (m.dotAll && n.dotAll) ||
    (m.verbose && n.verbose)

end Mode

/-! ## Tokens -/

/-- A character, or a backslash with the character after it. -/
inductive Token where
  | plain (c : Char)
  | escaped (c : Char)
  deriving DecidableEq, Repr

def Token.text : Token → List Char
  | .plain c => [c]
  | .escaped c => ['\\', c]

/-- The token to be read next and the text behind it. -/
structure Source where
  next : Option Token
  rest : List Char

/-- Reads the token at the start of a text; a backslash needs a character after it. -/
def Source.ofText : List Char → Except PatternFault Source
  | [] => .ok ⟨none, []⟩
  | ['\\'] => .error .malformed
  | '\\' :: c :: rest => .ok ⟨some (.escaped c), rest⟩
  | c :: rest => .ok ⟨some (.plain c), rest⟩

/-- What is known while a pattern is read. -/
structure ReadState where
  source : Source
  /-- The switches turned on for the whole pattern. -/
  global : Mode := {}
  /-- The width of each group in the order of their opening; none while it is open. -/
  groups : List (Option Width) := []
  names : List (String × Nat) := []
  /-- The number of groups, the whole match included, where the outermost part that looks behind
  began. -/
  behindFrom : Option Nat := none
  /-- The groups that a condition names by number. -/
  conditions : List Nat := []

abbrev Read := StateT ReadState (Except PatternFault)

namespace Read

def fail {α : Type} : Read α := throw .malformed

def peek : Read (Option Token) := do return (← get).source.next

/-- Takes the next token, if there is one. -/
def take : Read (Option Token) := do
  let st ← get
  let source ← Source.ofText st.source.rest
  set { st with source := source }
  return st.source.next

/-- Takes the next token if it is the character `c`. -/
def accept (c : Char) : Read Bool := do
  if (← peek) == some (.plain c) then
    let _ ← take
    return true
  return false

def expect (c : Char) : Read Unit := do
  if !(← accept c) then fail

/-- Takes at most `limit` plain characters of a class. -/
def takeWhile (p : Char → Bool) : Nat → Read (List Char)
  | 0 => return []
  | limit + 1 => do
    match (← peek) with
    | some (.plain c) =>
      if p c then
        let _ ← take
        return c :: (← takeWhile p limit)
      return []
    | _ => return []

/-- Takes everything up to the character `c`, which is taken too; there must be something. -/
def takeUntil (c : Char) : Nat → Read (List Char)
  | 0 => fail
  | fuel + 1 => do
    match (← take) with
    | none => fail
    | some t =>
      if t == .plain c then return []
      return t.text ++ (← takeUntil c fuel)

/-- The name before the character `c`. -/
def name (c : Char) : Read (List Char) := do
  let cs ← takeUntil c ((← get).source.rest.length + 1)
  if cs.isEmpty then fail
  return cs

/-! ## Groups -/

/-- The number of groups, the whole match included. -/
def groupCount : Read Nat := do return (← get).groups.length + 1

/-- The width of a group that is closed. -/
def closedWidth? (index : Nat) : Read (Option Width) := do
  if index == 0 then return none
  return ((← get).groups[index - 1]?).join

def openGroup (name : Option (List Char)) : Read Nat := do
  let index ← groupCount
  let st ← get
  match name with
  | none => set { st with groups := st.groups ++ [none] }
  | some cs =>
    let key := String.ofList cs
    if (st.names.lookup key).isSome then fail
    set { st with groups := st.groups ++ [none], names := (key, index) :: st.names }
  return index

/-- Inside a part that looks behind, only groups closed before it may be referred to. -/
def checkBehind (index : Nat) : Read Unit := do
  match (← get).behindFrom with
  | none => return ()
  | some start =>
    if (← closedWidth? index).isNone then fail
    if start ≤ index then fail

def nodeWidth (node : Node) : Read Width := do
  let groups := (← get).groups
  return node.width fun i => ((groups[i - 1]?).join).getD .zero

def closeGroup (index : Nat) (body : Node) : Read Unit := do
  let w ← nodeWidth body
  modify fun st => { st with groups := st.groups.set (index - 1) (some w) }

/-- A reference to a closed group. -/
def reference (mode : Mode) (index : Nat) : Read Node := do
  if (← closedWidth? index).isNone then fail
  checkBehind index
  return .backref index mode.fold

end Read

/-! ## Escapes -/

def isOctal (c : Char) : Bool := decide ('0' ≤ c) && decide (c ≤ '7')

/-- The value of one hexadecimal digit. -/
def hexValue (c : Char) : Nat :=
  if c.isDigit then c.toNat - 48
  else if decide ('a' ≤ c) && decide (c ≤ 'f') then c.toNat - 87
  else c.toNat - 55

def isHex (c : Char) : Bool :=
  c.isDigit || (decide ('a' ≤ c) && decide (c ≤ 'f')) || (decide ('A' ≤ c) && decide (c ≤ 'F'))

/-- The number written with the digits `cs` in a base up to sixteen. -/
def digitsValue (base : Nat) (cs : List Char) : Nat :=
  cs.foldl (fun n c => n * base + hexValue c) 0

/-- The characters that have a letter of their own. -/
def letterEscape? : Char → Option Nat
  | 'a' => some 7
  | 'b' => some 8
  | 'f' => some 12
  | 'n' => some 10
  | 'r' => some 13
  | 't' => some 9
  | 'v' => some 11
  | '\\' => some 92
  | _ => none

/-- The classes that have a letter of their own. -/
def categoryEscape? (mode : Mode) : Char → Option ClassItem
  | 'd' => some (.category .digit false mode.ascii)
  | 'D' => some (.category .digit true mode.ascii)
  | 's' => some (.category .blank false mode.ascii)
  | 'S' => some (.category .blank true mode.ascii)
  | 'w' => some (.category .word false mode.ascii)
  | 'W' => some (.category .word true mode.ascii)
  | _ => none

def anchorEscape? (mode : Mode) : Char → Option Anchor
  | 'A' => some .textStart
  | 'Z' => some .textEnd
  | 'b' => some (.wordEdge mode.ascii)
  | 'B' => some (.noWordEdge mode.ascii)
  | _ => none

/-- A number of exactly `count` hexadecimal digits. -/
def readHex (count : Nat) : Read Nat := do
  let cs ← Read.takeWhile isHex count
  if cs.length != count then Read.fail
  return digitsValue 16 cs

/-- The code point of a character whose name stands in braces. -/
def readNamedChar : Read Nat := do
  Read.expect '\x7b'
  match Text.codeOfName? (← Read.name '\x7d') with
  | some n => return n
  | none => Read.fail

/-- The escapes for a character by its number or name, which mean the same inside and outside of a
class. -/
def readCodeEscape? (c : Char) : Read (Option Nat) := do
  match c with
  | 'x' => return some (← readHex 2)
  | 'u' => return some (← readHex 4)
  | 'U' =>
    let n ← readHex 8
    if 0x110000 ≤ n then Read.fail
    return some n
  | 'N' => return some (← readNamedChar)
  | _ => return none

/-- An escape inside a class. -/
def readClassEscape (mode : Mode) (c : Char) : Read ClassItem := do
  if let some n := letterEscape? c then return .code n
  if let some item := categoryEscape? mode c then return item
  if let some n := (← readCodeEscape? c) then return .code n
  if isOctal c then
    let n := digitsValue 8 (c :: (← Read.takeWhile isOctal 2))
    if 0o377 < n then Read.fail
    return .code n
  if c.isDigit || c.isAlpha then Read.fail
  return .code c.toNat

/-- The test for one character by number. -/
def Mode.single (mode : Mode) (n : Nat) : Node :=
  .one ⟨false, [.code n], mode.fold⟩

/-- A digit after a backslash: three octal digits are a character, else it is a reference. -/
def readNumberEscape (mode : Mode) (c : Char) : Read Node := do
  let second ← Read.takeWhile Char.isDigit 1
  if isOctal c && second.any isOctal then
    let third ← Read.takeWhile isOctal 1
    if !third.isEmpty then
      let n := digitsValue 8 (c :: second ++ third)
      if 0o377 < n then Read.fail
      return mode.single n
  Read.reference mode (digitsValue 10 (c :: second))

/-- An escape outside of a class. -/
def readEscape (mode : Mode) (c : Char) : Read Node := do
  if let some test := anchorEscape? mode c then return .anchor test
  if let some item := categoryEscape? mode c then return .one ⟨false, [item], mode.fold⟩
  if let some n := letterEscape? c then return mode.single n
  if let some n := (← readCodeEscape? c) then return mode.single n
  if c == '0' then
    return mode.single (digitsValue 8 (← Read.takeWhile isOctal 2))
  if c.isDigit then return (← readNumberEscape mode c)
  if c.isAlpha then Read.fail
  return mode.single c.toNat

/-! ## Classes -/

/-- The item a token of a class stands for. -/
def readClassItem (mode : Mode) : Token → Read ClassItem
  | .escaped c => readClassEscape mode c
  | .plain c => return .code c.toNat

/-- The items of a class up to its closing bracket; a bracket that comes first is an item. -/
def readClassItems (mode : Mode) : Nat → List ClassItem → Read (List ClassItem)
  | 0, _ => Read.fail
  | fuel + 1, items => do
    let some t ← Read.take | Read.fail
    if t == .plain ']' && !items.isEmpty then return items.reverse
    let item ← readClassItem mode t
    if !(← Read.accept '-') then readClassItems mode fuel (item :: items)
    else
      let some u ← Read.take | Read.fail
      if u == .plain ']' then return (.code 45 :: item :: items).reverse
      let last ← readClassItem mode u
      match item, last with
      | .code lo, .code hi =>
        if hi < lo then Read.fail
        readClassItems mode fuel (.range lo hi :: items)
      | _, _ => Read.fail

def readClass (mode : Mode) : Read Node := do
  let negated ← Read.accept '^'
  let items ← readClassItems mode ((← get).source.rest.length + 2) []
  return .one ⟨negated, items, mode.fold⟩

/-! ## Repetition counts -/

/-- Counts from here on are too large. -/
def countLimit : Nat := Nat.pow 2 32 - 1

/-- A count is read only if it has no more digits than this. -/
def countDigits : Nat := 4300

def readCount (digits : List Char) : Read Nat := do
  if countDigits < digits.length then throw (.countTooLong digits.length)
  let n := digitsValue 10 digits
  if countLimit ≤ n then throw .countTooLarge
  return n

/-- The counts in braces after an opening brace; `none`, with nothing taken, if what follows is
not written as counts. -/
def readBraces? : Read (Option (Nat × Option Nat)) := do
  let before ← get
  if (← Read.peek) == some (.plain '\x7d') then return none
  let room := before.source.rest.length + 1
  let lo ← Read.takeWhile Char.isDigit room
  let comma ← Read.accept ','
  let hi ← if comma then Read.takeWhile Char.isDigit room else pure lo
  if !(← Read.accept '\x7d') then
    set before
    return none
  let least ← if lo.isEmpty then pure 0 else readCount lo
  if hi.isEmpty then return some (least, none)
  let most ← readCount hi
  if most < least then Read.fail
  return some (least, some most)

/-! ## Switches -/

/-- The letters of a switch list up to a closing parenthesis, a colon or a dash. -/
def readTurnOn : Nat → Mode → Char → Read (Mode × Char)
  | 0, _, _ => Read.fail
  | fuel + 1, mode, c => do
    let some next := mode.turnOn c | Read.fail
    if next.ascii && next.full then Read.fail
    match (← Read.take) with
    | some (.plain d) =>
      if d == ')' || d == '-' || d == ':' then return (next, d)
      readTurnOn fuel next d
    | _ => Read.fail

/-- The letters behind a dash up to a colon. The kind of classes cannot be turned off. -/
def readTurnOff : Nat → Mode → Char → Read Mode
  | 0, _, _ => Read.fail
  | fuel + 1, mode, c => do
    let some next := mode.turnOn c | Read.fail
    if next.ascii || next.full then Read.fail
    match (← Read.take) with
    | some (.plain d) =>
      if d == ':' then return next
      readTurnOff fuel next d
    | _ => Read.fail

/-- What a parenthesis with switches says: switches for the whole pattern, or switches turned on
and off for the group it opens. -/
inductive Switches where
  | global (on : Mode)
  | scoped (on off : Mode)

def readSwitches (c : Char) : Read Switches := do
  let room := (← get).source.rest.length + 2
  let (on, stop) ← if c == '-' then pure (({} : Mode), '-') else readTurnOn room {} c
  if stop == ')' then return .global on
  if on.template then Read.fail
  let off ←
    if stop == '-' then
      match (← Read.take) with
      | some (.plain d) => readTurnOff room {} d
      | _ => Read.fail
    else pure {}
  if off.template then Read.fail
  if on.overlaps off then Read.fail
  return .scoped on off

/-! ## Parts -/

/-- What a repetition may follow. -/
inductive PieceKind where
  | anchor
  | repeated
  | plain
  deriving DecidableEq

structure Piece where
  node : Node
  kind : PieceKind := .plain

/-- The parts, last one first, in a row. -/
def Node.ofPieces (pieces : List Piece) : Node :=
  pieces.foldl (fun node p => match node with
    | .empty => p.node
    | node => .seq p.node node) .empty

/-- Gives the last part its counts. -/
def repeatLast (least : Nat) (most : Option Nat) (pieces : List Piece) : Read (List Piece) := do
  match pieces with
  | [] => Read.fail
  | ⟨_, .anchor⟩ :: _ | ⟨_, .repeated⟩ :: _ => Read.fail
  | ⟨node, .plain⟩ :: rest =>
    let reluctant ← Read.accept '?'
    let possessive ← if reluctant then pure false else Read.accept '+'
    let appetite : Appetite :=
      if reluctant then .lazy else if possessive then .possessive else .greedy
    return ⟨.repetition appetite least most node, .repeated⟩ :: rest

/-- The condition of a conditional part: the name or the number of a group. -/
def readCondition : Read Nat := do
  let cs ← Read.name ')'
  let index ←
    if Text.isName cs then
      match (← get).names.lookup (String.ofList cs) with
      | some i => pure i
      | none => Read.fail
    else
      match Text.readInteger? 10 cs with
      | some (.ofNat (n + 1)) =>
        modify fun st => { st with conditions := (n + 1) :: st.conditions }
        pure (n + 1)
      | _ => Read.fail
  Read.checkBehind index
  return index

/-- Skips a comment up to its closing parenthesis. -/
def skipComment : Nat → Read Unit
  | 0 => Read.fail
  | fuel + 1 => do
    match (← Read.take) with
    | none => Read.fail
    | some t => if t == .plain ')' then return () else skipComment fuel

/-- Skips a comment up to the end of its line. -/
def skipLine : Nat → Read Unit
  | 0 => return ()
  | fuel + 1 => do
    match (← Read.take) with
    | none => return ()
    | some t => if t == .plain '\n' then return () else skipLine fuel

/-- What stands behind an opening parenthesis. -/
inductive Opening where
  | comment
  | switches (on : Mode)
  | node (node : Node)
  | look (ahead negated : Bool)
  | condition (index : Nat)
  | group (capture : Bool) (name : Option (List Char)) (on off : Mode)
  | atomic

def readOpening (mode : Mode) : Read Opening := do
  if !(← Read.accept '?') then return .group true none {} {}
  let some (.plain c) ← Read.take | Read.fail
  match c with
  | 'P' =>
    if (← Read.accept '<') then
      let name ← Read.name '>'
      if !Text.isName name then Read.fail
      return .group true (some name) {} {}
    if (← Read.accept '=') then
      let name ← Read.name ')'
      if !Text.isName name then Read.fail
      match (← get).names.lookup (String.ofList name) with
      | some i => return .node (← Read.reference mode i)
      | none => Read.fail
    Read.fail
  | ':' => return .group false none {} {}
  | '#' =>
    skipComment ((← get).source.rest.length + 2)
    return .comment
  | '=' => return .look true false
  | '!' => return .look true true
  | '<' =>
    match (← Read.take) with
    | some (.plain '=') => return .look false false
    | some (.plain '!') => return .look false true
    | _ => Read.fail
  | '(' => return .condition (← readCondition)
  | '>' => return .atomic
  | c =>
    match (← readSwitches c) with
    | .global on => return .switches on
    | .scoped on off => return .group false none on off

/-- The blanks that a verbose pattern may hold. -/
def isVerboseBlank (c : Char) : Bool := Text.isAsciiBlank c

/-! ## The whole pattern

`readParts` reads parts up to a bar or a closing parenthesis, `readBranches` alternatives up to a
closing parenthesis. Both end at the end of the text. Every call takes a token or goes one
parenthesis deeper, so the fuel, twice the length of the text, is never used up. -/

mutual

/-- Alternatives. At the outermost level the switches for the whole pattern are in force from the
second alternative on. -/
def readBranches : Nat → (outermost : Bool) → (first : Bool) → Mode → Read Node
  | 0, _, _, _ => Read.fail
  | fuel + 1, outermost, first, mode => do
    let node ← readParts fuel outermost (outermost && first) mode []
    if (← Read.accept '|') then
      let mode ← if outermost then (do return (← get).global) else pure mode
      return .alt node (← readBranches fuel outermost false mode)
    return node

/-- Parts in a row, those already read given last one first. -/
def readParts : Nat → (outermost : Bool) → (first : Bool) → Mode → List Piece → Read Node
  | 0, _, _, _, _ => Read.fail
  | fuel + 1, outermost, first, mode, pieces => do
    match (← Read.peek) with
    | none | some (.plain '|') | some (.plain ')') => return .ofPieces pieces
    | some (.escaped c) =>
      let _ ← Read.take
      let node ← readEscape mode c
      let kind := match node with | .anchor _ => PieceKind.anchor | _ => PieceKind.plain
      readParts fuel outermost first mode (⟨node, kind⟩ :: pieces)
    | some (.plain c) =>
      let _ ← Read.take
      if mode.verbose && isVerboseBlank c then
        readParts fuel outermost first mode pieces
      else if mode.verbose && c == '#' then
        skipLine ((← get).source.rest.length + 2)
        readParts fuel outermost first mode pieces
      else match c with
      | '[' => readParts fuel outermost first mode (⟨← readClass mode, .plain⟩ :: pieces)
      | '?' => readParts fuel outermost first mode (← repeatLast 0 (some 1) pieces)
      | '*' => readParts fuel outermost first mode (← repeatLast 0 none pieces)
      | '+' => readParts fuel outermost first mode (← repeatLast 1 none pieces)
      | '\x7b' =>
        match (← readBraces?) with
        | none => readParts fuel outermost first mode (⟨mode.single 0x7b, .plain⟩ :: pieces)
        | some (least, most) =>
          readParts fuel outermost first mode (← repeatLast least most pieces)
      | '.' =>
        let items := if mode.dotAll then [] else [ClassItem.code 10]
        readParts fuel outermost first mode (⟨.one ⟨true, items, .exact⟩, .plain⟩ :: pieces)
      | '^' =>
        let test := if mode.multiline then Anchor.lineStart else .textStart
        readParts fuel outermost first mode (⟨.anchor test, .anchor⟩ :: pieces)
      | '$' =>
        let test := if mode.multiline then Anchor.lineEnd else .lastLineEnd
        readParts fuel outermost first mode (⟨.anchor test, .anchor⟩ :: pieces)
      | '(' =>
        match (← readOpening mode) with
        | .comment => readParts fuel outermost first mode pieces
        | .switches on =>
          let global := (← get).global.union on
          modify fun st => { st with global := global }
          if !first || !pieces.isEmpty then Read.fail
          readParts fuel outermost first global pieces
        | .node node => readParts fuel outermost first mode (⟨node, .plain⟩ :: pieces)
        | .look ahead negated =>
          let outer := (← get).behindFrom
          if !ahead && outer.isNone then
            let count ← Read.groupCount
            modify fun st => { st with behindFrom := some count }
          let body ← readBranches fuel false false mode
          if !ahead && outer.isNone then
            modify fun st => { st with behindFrom := none }
          Read.expect ')'
          let node ←
            if ahead then pure (Node.ahead negated body)
            else (do return .behind negated (← Read.nodeWidth body) body)
          readParts fuel outermost first mode (⟨node, .plain⟩ :: pieces)
        | .condition index =>
          let yes ← readParts fuel false false mode []
          let no ← if (← Read.accept '|') then readParts fuel false false mode [] else pure .empty
          Read.expect ')'
          readParts fuel outermost first mode (⟨.conditional index yes no, .plain⟩ :: pieces)
        | .atomic =>
          let body ← readBranches fuel false false mode
          Read.expect ')'
          readParts fuel outermost first mode (⟨.atomic body, .plain⟩ :: pieces)
        | .group capture name on off =>
          let index ← if capture then (do return some (← Read.openGroup name)) else pure none
          let body ← readBranches fuel false false (mode.within on off)
          Read.expect ')'
          match index with
          | some i =>
            Read.closeGroup i body
            readParts fuel outermost first mode (⟨.group i body, .plain⟩ :: pieces)
          | none => readParts fuel outermost first mode (⟨body, .plain⟩ :: pieces)
      | c => readParts fuel outermost first mode (⟨mode.single c.toNat, .plain⟩ :: pieces)

end

/-- Reads a whole pattern and checks what can only be checked at its end. -/
def readAll (text : List Char) : Read Node := do
  let node ← readBranches (2 * text.length + 4) true true {}
  let st ← get
  if st.global.ascii && st.global.full then throw .asciiAndFull
  if st.source.next.isSome then Read.fail
  if st.conditions.any fun i => decide (st.groups.length < i) then Read.fail
  if !node.behindsFixed then Read.fail
  if st.global.template && node.repeats then Read.fail
  return node

/-- The tree of a pattern. -/
def Node.read (text : List Char) : Except PatternFault Node := do
  let source ← Source.ofText text
  let (node, _) ← (readAll text).run { source := source }
  return node

end ConnectClients.Pattern
