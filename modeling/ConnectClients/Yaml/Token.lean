import ConnectClients.Text.IntegerLiteral

/-!
# YAML tokens

A YAML 1.1 text as a list of tokens. Indentation becomes tokens that open and close block
collections, and a key is marked by a token in front of it, which is put there when the colon behind
the key is met.
-/

namespace ConnectClients.Yaml

/-- Why a text cannot be loaded. -/
inductive Fault where
  /-- The text is not YAML, or not YAML that this loader takes. -/
  | malformed
  /-- An escape gives the number of no character. -/
  | noCharacter (code : Nat)
  deriving DecidableEq, Repr

/-- The text of a scalar. An escape may give a code that is no character; then the codes are kept
and the text has replacement characters for these. -/
structure ScalarText where
  text : List Char
  broken : Option (List Nat) := none
  deriving DecidableEq, Repr

def ScalarText.ofCodes (codes : List Nat) : ScalarText :=
  { text := codes.map fun n => if n.isValidChar then Char.ofNat n else Char.ofNat 0xfffd
    broken := if codes.all fun n => decide n.isValidChar then none else some codes }

/-- A tag as written: a handle, if there is one, and what follows it. -/
structure TagText where
  handle : Option (List Char)
  suffix : List Char
  deriving DecidableEq, Repr

inductive Token where
  | versionDirective (major : Nat)
  | tagDirective (handle expansion : List Char)
  | otherDirective
  | documentStart
  | documentEnd
  | streamEnd
  | blockSequenceStart
  | blockMappingStart
  | blockEnd
  | flowSequenceStart
  | flowSequenceEnd
  | flowMappingStart
  | flowMappingEnd
  | blockEntry
  | flowEntry
  | key
  | value
  | aliasOf (name : List Char)
  | anchor (name : List Char)
  | tag (tag : TagText)
  | scalar (text : ScalarText) (plain : Bool)
  deriving DecidableEq, Repr

/-! ## Characters -/

/-- A character a YAML text may hold. -/
def isAllowed (c : Char) : Bool :=
  let n := c.toNat
  n == 9 || n == 10 || n == 13 || (decide (0x20 ≤ n) && decide (n ≤ 0x7e)) || n == 0x85 ||
    (decide (0xa0 ≤ n) && decide (n ≤ 0xd7ff)) || (decide (0xe000 ≤ n) && decide (n ≤ 0xfffd)) ||
    decide (0x10000 ≤ n)

/-- A character that ends a line. -/
def isBreak (c : Char) : Bool :=
  c == '\n' || c == '\r' || c.toNat == 0x85 || c.toNat == 0x2028 || c.toNat == 0x2029

/-- A character of names, directives and anchors. -/
def isNameChar (c : Char) : Bool := c.isAlphanum || c == '-' || c == '_'

/-- A character of tags. -/
def isUriChar (c : Char) : Bool :=
  c.isAlphanum || "-;/?:@&=+$,_.!~*'()[]%".toList.contains c

def isHexDigit (c : Char) : Bool :=
  c.isDigit || (decide ('a' ≤ c) && decide (c ≤ 'f')) || (decide ('A' ≤ c) && decide (c ≤ 'F'))

/-- The number written with hexadecimal digits. -/
def hexNumber (cs : List Char) : Nat :=
  cs.foldl (fun n c => n * 16 + (Text.digitValue? c).getD 0) 0

/-! ## Places -/

/-- A place in the text: what is left of it, and how far it is from the start. -/
structure Place where
  rest : List Char
  index : Nat := 0
  line : Nat := 0
  column : Nat := 0

namespace Place

def peek (p : Place) : Option Char := p.rest.head?

def peekAt (p : Place) (n : Nat) : Option Char := p.rest[n]?

/-- One character further. A byte order mark takes no column. -/
def step (p : Place) : Place :=
  match p.rest with
  | [] => p
  | c :: rest =>
    let endsLine := isBreak c && !(c == '\r' && rest.head? == some '\n')
    { rest := rest, index := p.index + 1
      line := if endsLine then p.line + 1 else p.line
      column := if endsLine then 0 else if c.toNat == 0xfeff then p.column else p.column + 1 }

def skip (p : Place) : Nat → Place
  | 0 => p
  | n + 1 => p.step.skip n

/-- The characters of a class that come next, and the place behind them. -/
def span (p : Place) (test : Char → Bool) : List Char × Place :=
  let cs := p.rest.takeWhile test
  (cs, p.skip cs.length)

def skipWhile (p : Place) (test : Char → Bool) : Place := (p.span test).2

/-- The end of the text or the end of a line. -/
def atBreak (p : Place) : Bool := p.peek.all isBreak

/-- The end of the text, the end of a line, or a space. -/
def atSpace (p : Place) : Bool := p.peek.all fun c => isBreak c || c == ' '

/-- Whether the character `n` places ahead is the end of the text, the end of a line, a space or a
tab. -/
def blankAt (p : Place) (n : Nat) : Bool :=
  (p.peekAt n).all fun c => isBreak c || c == ' ' || c == '\t'

/-- Takes the end of a line, if there is one, and gives what it stands for in a scalar. -/
def lineBreak (p : Place) : Option (Char × Place) :=
  match p.rest with
  | '\r' :: '\n' :: _ => some ('\n', p.skip 2)
  | c :: _ =>
    if c == '\n' || c == '\r' || c.toNat == 0x85 then some ('\n', p.step)
    else if c.toNat == 0x2028 || c.toNat == 0x2029 then some (c, p.step)
    else none
  | [] => none

/-- Three dashes or dots with a blank behind them. -/
def atSeparator (p : Place) : Bool :=
  (p.rest.take 3 == ['-', '-', '-'] || p.rest.take 3 == ['.', '.', '.']) && p.blankAt 3

/-- Spaces, a comment and the end of the line; nothing else may be there. -/
def ignoredLine (p : Place) : Except Fault Place := do
  let p := p.skipWhile (· == ' ')
  let p := if p.peek == some '#' then p.skipWhile (!isBreak ·) else p
  if !p.atBreak then throw .malformed
  return (p.lineBreak.map (·.2)).getD p

end Place

/-! ## Directives, anchors and tags -/

/-- A number of a version. -/
def scanVersionNumber (p : Place) : Except Fault (Nat × Place) := do
  let (ds, p) := p.span Char.isDigit
  if ds.isEmpty then throw .malformed
  return (ds.foldl (fun n c => n * 10 + (c.toNat - 48)) 0, p)

/-- A tag handle: an exclamation mark, or a name between two of them. -/
def scanTagHandle (p : Place) : Except Fault (List Char × Place) := do
  if p.peek != some '!' then throw .malformed
  let (name, q) := p.step.span isNameChar
  if name.isEmpty && q.peek == some ' ' then return (['!'], q)
  if q.peek != some '!' then throw .malformed
  return ('!' :: name ++ ['!'], q.step)

/-- The octets that the escapes at the front of a text give. -/
def scanEscapedOctets : List Char → Except Fault (List Nat × List Char)
  | '%' :: a :: b :: rest => do
    if !isHexDigit a || !isHexDigit b then throw .malformed
    let (octets, rest) ← scanEscapedOctets rest
    return (hexNumber [a, b] :: octets, rest)
  | '%' :: _ => throw .malformed
  | rest => return ([], rest)

/-- The characters that octets encode. -/
def decodeOctets (octets : List Nat) : Option (List Char) :=
  let bytes := ByteArray.mk (octets.map Nat.toUInt8).toArray
  (String.fromUTF8? bytes).map String.toList

/-- The characters of a tag; a percent sign starts an escaped octet. -/
def scanUriChars : Nat → Place → Except Fault (List Char × Place)
  | 0, p => return ([], p)
  | fuel + 1, p => do
    match p.peek with
    | some '%' =>
      let (octets, rest) ← scanEscapedOctets p.rest
      match decodeOctets octets with
      | none => throw .malformed
      | some cs =>
        let (more, q) ← scanUriChars fuel (p.skip (p.rest.length - rest.length))
        return (cs ++ more, q)
    | some c =>
      if isUriChar c then
        let (more, q) ← scanUriChars fuel p.step
        return (c :: more, q)
      return ([], p)
    | none => return ([], p)

def scanUri (p : Place) : Except Fault (List Char × Place) := do
  let (cs, q) ← scanUriChars (p.rest.length + 1) p
  if q.index == p.index then throw .malformed
  return (cs, q)

/-- A directive, behind its percent sign. -/
def scanDirective (p : Place) : Except Fault (Token × Place) := do
  let (name, p) := p.span isNameChar
  if name.isEmpty || !p.atSpace then throw .malformed
  if name == "YAML".toList then
    let (major, p) ← scanVersionNumber (p.skipWhile (· == ' '))
    if p.peek != some '.' then throw .malformed
    let (_, p) ← scanVersionNumber p.step
    if !p.atSpace then throw .malformed
    return (.versionDirective major, ← p.ignoredLine)
  else if name == "TAG".toList then
    let (handle, p) ← scanTagHandle (p.skipWhile (· == ' '))
    if p.peek != some ' ' then throw .malformed
    let (expansion, p) ← scanUri (p.skipWhile (· == ' '))
    if !p.atSpace then throw .malformed
    return (.tagDirective handle expansion, ← p.ignoredLine)
  else
    return (.otherDirective, ← (p.skipWhile (!isBreak ·)).ignoredLine)

/-- The name of an anchor or an alias, behind its mark. -/
def scanAnchorName (p : Place) : Except Fault (List Char × Place) := do
  let (name, p) := p.span isNameChar
  if name.isEmpty then throw .malformed
  if !p.blankAt 0 && !(p.peek.any fun c => "?:,]\x7d%@\x60".toList.contains c) then throw .malformed
  return (name, p)

/-- Whether a handle comes next: there is a second exclamation mark before the next space. -/
def hasHandle (p : Place) : Bool :=
  (p.rest.drop 1).find? (fun c => isBreak c || c == ' ' || c == '!') == some '!'

/-- A tag, at its exclamation mark. -/
def scanTag (p : Place) : Except Fault (TagText × Place) := do
  let (tag, p) ←
    if p.peekAt 1 == some '<' then do
      let (suffix, p) ← scanUri (p.skip 2)
      if p.peek != some '>' then throw .malformed
      pure (⟨none, suffix⟩, p.step)
    else if p.blankAt 1 then pure (⟨none, ['!']⟩, p.step)
    else do
      let (handle, p) ← if hasHandle p then scanTagHandle p else pure (['!'], p.step)
      let (suffix, p) ← scanUri p
      pure (⟨some handle, suffix⟩, p)
  if !p.atSpace then throw .malformed
  return (tag, p)

/-! ## Block scalars -/

/-- What becomes of the line ends behind the last line of a block scalar. -/
inductive Chomping where
  | strip
  | clip
  | keep
  deriving DecidableEq

/-- The chomping mark and the indentation mark of a block scalar, in either order. -/
def scanBlockMarks (p : Place) : Except Fault (Chomping × Option Nat × Place) := do
  let chomp (q : Place) : Chomping × Place :=
    match q.peek with
    | some '+' => (.keep, q.step)
    | some '-' => (.strip, q.step)
    | _ => (.clip, q)
  let indent (q : Place) : Option Nat × Place :=
    match q.peek with
    | some c => if c.isDigit then (some (c.toNat - 48), q.step) else (none, q)
    | none => (none, q)
  let (chomping, increment, p) : Chomping × Option Nat × Place :=
    match indent p with
    | (some n, q) =>
      let (chomping, q) := chomp q
      (chomping, some n, q)
    | (none, _) =>
      let (chomping, q) := chomp p
      if chomping == Chomping.clip then (chomping, none, q)
      else
        let (increment, q) := indent q
        (chomping, increment, q)
  if increment == some 0 || !p.atSpace then throw .malformed
  return (chomping, increment, p)

/-- Leading empty lines of a block scalar, and the largest indentation met on the way. -/
def scanBlockIndentation : Nat → Place → Nat → List Char × Nat × Place
  | 0, p, deepest => ([], deepest, p)
  | fuel + 1, p, deepest =>
    if p.peek == some ' ' then
      let q := p.step
      scanBlockIndentation fuel q (max deepest q.column)
    else match p.lineBreak with
      | some (c, q) =>
        let (breaks, deepest, q) := scanBlockIndentation fuel q deepest
        (c :: breaks, deepest, q)
      | none => ([], deepest, p)

/-- Spaces up to a column. -/
def skipIndent (indent : Nat) (p : Place) : Place :=
  p.skip ((p.rest.takeWhile (· == ' ')).length.min (indent - p.column))

/-- Empty lines inside a block scalar. -/
def scanBlockBreaks (indent : Nat) : Nat → Place → List Char × Place
  | 0, p => ([], p)
  | fuel + 1, p =>
    let p := skipIndent indent p
    match p.lineBreak with
    | some (c, q) =>
      let (breaks, q) := scanBlockBreaks indent fuel q
      (c :: breaks, q)
    | none => ([], p)

def isGap (c : Option Char) : Bool := c == some ' ' || c == some '\t'

/-- The lines of a block scalar from a line on, with the empty lines in front of it. What is left
over are the end of the last line and the empty lines behind it. -/
def scanBlockLines (folded : Bool) (indent : Nat) :
    Nat → List Char → Place → List Char × List Char × List Char × Place
  | 0, breaks, p => ([], [], breaks, p)
  | fuel + 1, breaks, p =>
    if p.column != indent || p.peek.isNone then ([], [], breaks, p)
    else
      let flush := !isGap p.peek
      let (line, p) := p.span (!isBreak ·)
      let (ending, p) := match p.lineBreak with
        | some (c, q) => ([c], q)
        | none => ([], p)
      let (next, p) := scanBlockBreaks indent (p.rest.length + 1) p
      if p.column != indent || p.peek.isNone then (breaks ++ line, ending, next, p)
      else
        let joint :=
          if folded && ending == ['\n'] && flush && !isGap p.peek then
            if next.isEmpty then [' '] else []
          else ending
        let (more, ending, tail, q) := scanBlockLines folded indent fuel next p
        (breaks ++ line ++ joint ++ more, ending, tail, q)

/-- A block scalar behind its mark, in a block indented by `parent`. -/
def scanBlockScalar (folded : Bool) (parent : Int) (p : Place) :
    Except Fault (List Char × Place) := do
  let (chomping, increment, p) ← scanBlockMarks p
  let p ← p.ignoredLine
  let least := max 1 (parent + 1).toNat
  let room := p.rest.length + 1
  let (breaks, indent, p) :=
    match increment with
    | some n =>
      let indent := least + n - 1
      let (breaks, q) := scanBlockBreaks indent room p
      (breaks, indent, q)
    | none =>
      let (breaks, deepest, q) := scanBlockIndentation room p 0
      (breaks, max least deepest, q)
  let (body, ending, tail, p) := scanBlockLines folded indent room breaks p
  let text := match chomping with
    | .strip => body
    | .clip => body ++ ending
    | .keep => body ++ ending ++ tail
  return (text, p)

/-! ## Quoted scalars -/

def escapeCode? : Char → Option Nat
  | '0' => some 0
  | 'a' => some 7
  | 'b' => some 8
  | 't' => some 9
  | '\t' => some 9
  | 'n' => some 10
  | 'v' => some 11
  | 'f' => some 12
  | 'r' => some 13
  | 'e' => some 27
  | ' ' => some 32
  | '"' => some 34
  | '\\' => some 92
  | '/' => some 47
  | 'N' => some 0x85
  | '_' => some 0xa0
  | 'L' => some 0x2028
  | 'P' => some 0x2029
  | _ => none

/-- The number of digits behind a numeric escape. -/
def escapeDigits? : Char → Option Nat
  | 'x' => some 2
  | 'u' => some 4
  | 'U' => some 8
  | _ => none

/-- Ends of lines inside a quoted scalar, with the indentation behind them. -/
def scanQuotedBreaks : Nat → Place → Except Fault (List Nat × Place)
  | 0, p => return ([], p)
  | fuel + 1, p => do
    if p.atSeparator then throw .malformed
    let p := p.skipWhile fun c => c == ' ' || c == '\t'
    match p.lineBreak with
    | some (c, q) =>
      let (breaks, q) ← scanQuotedBreaks fuel q
      return (c.toNat :: breaks, q)
    | none => return ([], p)

/-- White space inside a quoted scalar: one line end is a space, more of them stay but for the
first. -/
def scanQuotedGap (p : Place) : Except Fault (List Nat × Place) := do
  let (gap, p) := p.span fun c => c == ' ' || c == '\t'
  match p.lineBreak with
  | some (c, q) =>
    let (breaks, q) ← scanQuotedBreaks (q.rest.length + 1) q
    let first := if c != '\n' then [c.toNat] else if breaks.isEmpty then [32] else []
    return (first ++ breaks, q)
  | none =>
    if p.peek.isNone then throw .malformed
    return (gap.map Char.toNat, p)

/-- An escape behind its backslash. -/
def scanEscape (p : Place) : Except Fault (List Nat × Place) := do
  match p.peek with
  | none => throw .malformed
  | some c =>
    if let some n := escapeCode? c then return ([n], p.step)
    if let some count := escapeDigits? c then
      let ds := p.step.rest.take count
      if ds.length != count || !ds.all isHexDigit then throw .malformed
      let code := hexNumber ds
      if 0x110000 ≤ code then throw (.noCharacter code)
      return ([code], p.skip (count + 1))
    match p.lineBreak with
    | some (_, q) => scanQuotedBreaks (q.rest.length + 1) q
    | none => throw .malformed

/-- The rest of a quoted scalar up to its closing quote. -/
def scanQuoted (double : Bool) : Nat → Place → Except Fault (List Nat × Place)
  | 0, _ => throw .malformed
  | fuel + 1, p => do
    match p.peek with
    | none => throw .malformed
    | some c =>
      if c == ' ' || c == '\t' || isBreak c then
        let (gap, q) ← scanQuotedGap p
        let (more, q) ← scanQuoted double fuel q
        return (gap ++ more, q)
      else if double && c == '"' then return ([], p.step)
      else if double && c == '\\' then
        let (codes, q) ← scanEscape p.step
        let (more, q) ← scanQuoted double fuel q
        return (codes ++ more, q)
      else if !double && c == '\'' then
        if p.peekAt 1 == some '\'' then
          let (more, q) ← scanQuoted double fuel (p.skip 2)
          return (39 :: more, q)
        return ([], p.step)
      else
        let (more, q) ← scanQuoted double fuel p.step
        return (c.toNat :: more, q)

/-! ## Plain scalars -/

def isFlowMark (c : Char) : Bool := ",[]\x7b\x7d".toList.contains c

/-- The characters of a plain scalar up to a blank or a mark that ends it. -/
def plainRun (inFlow : Bool) : List Char → List Char
  | [] => []
  | c :: rest =>
    let ends :=
      isBreak c || c == ' ' || c == '\t' ||
      (c == ':' && rest.head?.all fun d =>
        isBreak d || d == ' ' || d == '\t' || (inFlow && isFlowMark d)) ||
      (inFlow && (isFlowMark c || c == '?'))
    if ends then [] else c :: plainRun inFlow rest

/-- Ends of lines behind a line of a plain scalar; a document separator ends the scalar. -/
def scanPlainBreaks : Nat → Place → Option (List Char) × Place
  | 0, p => (some [], p)
  | fuel + 1, p =>
    if p.peek == some ' ' then scanPlainBreaks fuel p.step
    else match p.lineBreak with
      | some (c, q) =>
        if q.atSeparator then (none, q)
        else match scanPlainBreaks fuel q with
          | (some breaks, q) => (some (c :: breaks), q)
          | (none, q) => (none, q)
      | none => (some [], p)

/-- White space behind a run of a plain scalar, and whether it holds a line end. Nothing is given
back where the scalar ends. -/
def scanPlainGap (p : Place) : List Char × Bool × Place :=
  let (gap, p) := p.span (· == ' ')
  match p.lineBreak with
  | none => (gap, false, p)
  | some (c, q) =>
    if q.atSeparator then ([], true, q)
    else match scanPlainBreaks (q.rest.length + 1) q with
      | (none, q) => ([], true, q)
      | (some breaks, q) =>
        let first := if c != '\n' then [c] else if breaks.isEmpty then [' '] else []
        (first ++ breaks, true, q)

/-- A plain scalar, its lines indented by at least `indent` unless it is inside a flow collection,
and whether it ends at the start of a line. -/
def scanPlain (inFlow : Bool) (indent : Int) : Nat → Place → List Char × Bool × Place
  | 0, p => ([], false, p)
  | fuel + 1, p =>
    let run := if p.peek == some '#' then [] else plainRun inFlow p.rest
    if run.isEmpty then ([], false, p)
    else
      let (gap, broken, q) := scanPlainGap (p.skip run.length)
      if gap.isEmpty || q.peek == some '#' || (!inFlow && (q.column : Int) < indent) then
        (run, broken, q)
      else
        match scanPlain inFlow indent fuel q with
        | ([], _, q) => (run, broken, q)
        | (more, brokenLater, q) => (run ++ gap ++ more, brokenLater, q)

/-! ## The scanner -/

/-- A place where a key may have started: the number of the token there, and whether it must turn
out to be a key. -/
structure KeyPlace where
  token : Nat
  required : Bool
  index : Nat
  line : Nat
  column : Nat

structure ScanState where
  place : Place
  tokens : Array Token := #[]
  /-- How many flow collections are open. -/
  flow : Nat := 0
  indent : Int := -1
  indents : List Int := []
  /-- Whether a key may start here. -/
  keyAllowed : Bool := true
  /-- The latest place for a key at each level of flow collections. -/
  keys : List (Nat × KeyPlace) := []

abbrev Scan := StateT ScanState (Except Fault)

namespace Scan

def emit (t : Token) : Scan Unit :=
  modify fun st => { st with tokens := st.tokens.push t }

def moveTo (p : Place) : Scan Unit :=
  modify fun st => { st with place := p }

def allowKey (allowed : Bool) : Scan Unit :=
  modify fun st => { st with keyAllowed := allowed }

def insertAt (position : Nat) (t : Token) : Scan Unit :=
  modify fun st =>
    { st with tokens := st.tokens.insertIdxIfInBounds position t }

/-- The place for a key at the current level is given up, which it must not be if it is required. -/
def dropKey : Scan Unit := do
  let st ← get
  match st.keys.lookup st.flow with
  | none => return ()
  | some k =>
    if k.required then throw .malformed
    set { st with keys := st.keys.filter (·.1 != st.flow) }

/-- A key must stand on one line and within 1024 characters. -/
def dropStaleKeys : Scan Unit := do
  let st ← get
  let isStale (k : KeyPlace) : Bool :=
    k.line != st.place.line || decide (k.index + 1024 < st.place.index)
  if st.keys.any fun (_, k) => isStale k && k.required then throw .malformed
  set { st with keys := st.keys.filter fun (_, k) => !isStale k }

/-- A key may start with the next token. -/
def saveKey : Scan Unit := do
  let st ← get
  if st.keyAllowed then
    dropKey
    let st ← get
    let required := st.flow == 0 && st.indent == st.place.column
    let k : KeyPlace :=
      ⟨st.tokens.size, required, st.place.index, st.place.line, st.place.column⟩
    set { st with keys := (st.flow, k) :: st.keys }

/-- Leaves the indentations beyond a column: how many are left, and those that stay. -/
def leaveIndents (column : Int) : Int → List Int → Nat × Int × List Int
  | indent, outer :: indents =>
    if column < indent then
      let (n, stay) := leaveIndents column outer indents
      (n + 1, stay)
    else (0, indent, outer :: indents)
  | indent, [] => (0, indent, [])

/-- Closes the blocks indented further than a column. -/
def unwind (column : Int) : Scan Unit := do
  let st ← get
  if st.flow == 0 then
    let (n, indent, indents) := leaveIndents column st.indent st.indents
    set { st with
      tokens := st.tokens ++ Array.replicate n Token.blockEnd
      indent := indent
      indents := indents }

/-- Opens a block at a column if the current one is indented less. -/
def addIndent (column : Nat) : Scan Bool := do
  let st ← get
  if st.indent < column then
    set { st with indents := st.indent :: st.indents, indent := (column : Int) }
    return true
  return false

/-- Spaces, comments and ends of lines in front of a token. A line end allows a key to start unless
it is inside a flow collection. -/
def skipToToken : Nat → Scan Unit
  | 0 => return ()
  | fuel + 1 => do
    let st ← get
    let p := st.place.skipWhile (· == ' ')
    let p := if p.peek == some '#' then p.skipWhile (!isBreak ·) else p
    match p.lineBreak with
    | some (_, q) =>
      moveTo q
      if st.flow == 0 then allowKey true
      skipToToken fuel
    | none => moveTo p

/-- A token of one character. -/
def single (t : Token) : Scan Unit := do
  moveTo (← get).place.step
  emit t

def directive : Scan Unit := do
  unwind (-1)
  dropKey
  allowKey false
  let (t, p) ← scanDirective (← get).place.step
  moveTo p
  emit t

def separator (t : Token) : Scan Unit := do
  unwind (-1)
  dropKey
  allowKey false
  moveTo ((← get).place.skip 3)
  emit t

def flowStart (t : Token) : Scan Unit := do
  saveKey
  modify fun st => { st with flow := st.flow + 1 }
  allowKey true
  single t

def flowEnd (t : Token) : Scan Unit := do
  dropKey
  if (← get).flow == 0 then throw .malformed
  modify fun st => { st with flow := st.flow - 1 }
  allowKey false
  single t

def flowEntry : Scan Unit := do
  allowKey true
  dropKey
  single .flowEntry

def blockEntry : Scan Unit := do
  let st ← get
  if st.flow == 0 then
    if !st.keyAllowed then throw .malformed
    if (← addIndent st.place.column) then emit .blockSequenceStart
  allowKey true
  dropKey
  single .blockEntry

def key : Scan Unit := do
  let st ← get
  if st.flow == 0 then
    if !st.keyAllowed then throw .malformed
    if (← addIndent st.place.column) then emit .blockMappingStart
  allowKey (st.flow == 0)
  dropKey
  single .key

def value : Scan Unit := do
  let st ← get
  match st.keys.lookup st.flow with
  | some k =>
    set { st with keys := st.keys.filter (·.1 != st.flow) }
    insertAt k.token .key
    if st.flow == 0 then
      if (← addIndent k.column) then insertAt k.token .blockMappingStart
    allowKey false
  | none =>
    if st.flow == 0 then
      if !st.keyAllowed then throw .malformed
      if (← addIndent st.place.column) then emit .blockMappingStart
    allowKey (st.flow == 0)
    dropKey
  single .value

def anchor (make : List Char → Token) : Scan Unit := do
  saveKey
  allowKey false
  let (name, p) ← scanAnchorName (← get).place.step
  moveTo p
  emit (make name)

def tag : Scan Unit := do
  saveKey
  allowKey false
  let (t, p) ← scanTag (← get).place
  moveTo p
  emit (.tag t)

def blockScalar (folded : Bool) : Scan Unit := do
  allowKey true
  dropKey
  let st ← get
  let (text, p) ← scanBlockScalar folded st.indent st.place.step
  moveTo p
  emit (.scalar ⟨text, none⟩ false)

def quoted (double : Bool) : Scan Unit := do
  saveKey
  allowKey false
  let p := (← get).place.step
  let (codes, p) ← scanQuoted double (p.rest.length + 1) p
  moveTo p
  emit (.scalar (.ofCodes codes) false)

def plain : Scan Unit := do
  saveKey
  let st ← get
  let (text, broken, p) :=
    scanPlain (st.flow != 0) (st.indent + 1) (st.place.rest.length + 1) st.place
  moveTo p
  allowKey broken
  emit (.scalar ⟨text, none⟩ true)

/-- Whether a plain scalar may start here. -/
def startsPlain (p : Place) (inFlow : Bool) : Bool :=
  match p.peek with
  | none => false
  | some c =>
    !(isBreak c || c == ' ' || c == '\t' || "-?:,[]\x7b\x7d#&*!|>'\"%@\x60".toList.contains c) ||
      (!p.blankAt 1 && (c == '-' || (!inFlow && (c == '?' || c == ':'))))

/-- Reads the next token; false behind the last. -/
def next : Scan Bool := do
  skipToToken ((← get).place.rest.length + 1)
  dropStaleKeys
  unwind (← get).place.column
  let st ← get
  let p := st.place
  let inFlow := st.flow != 0
  match p.peek with
  | none =>
    unwind (-1)
    dropKey
    emit .streamEnd
    return false
  | some c =>
    if c == '%' && p.column == 0 then directive
    else if c == '-' && p.column == 0 && p.atSeparator then separator .documentStart
    else if c == '.' && p.column == 0 && p.atSeparator then separator .documentEnd
    else if c == '[' then flowStart .flowSequenceStart
    else if c == '\x7b' then flowStart .flowMappingStart
    else if c == ']' then flowEnd .flowSequenceEnd
    else if c == '\x7d' then flowEnd .flowMappingEnd
    else if c == ',' then flowEntry
    else if c == '-' && p.blankAt 1 then blockEntry
    else if c == '?' && (inFlow || p.blankAt 1) then key
    else if c == ':' && (inFlow || p.blankAt 1) then value
    else if c == '*' then anchor .aliasOf
    else if c == '&' then anchor .anchor
    else if c == '!' then tag
    else if c == '|' && !inFlow then blockScalar false
    else if c == '>' && !inFlow then blockScalar true
    else if c == '\'' then quoted false
    else if c == '"' then quoted true
    else if startsPlain p inFlow then plain
    else throw .malformed
    return true

/-- Reads all tokens. -/
def all : Nat → Scan Unit
  | 0 => throw .malformed
  | fuel + 1 => do
    if (← next) then all fuel

end Scan

/-- The tokens of a text. One byte order mark in front of it is dropped. -/
def tokens (text : List Char) : Except Fault (Array Token) := do
  if !text.all isAllowed then throw .malformed
  let start : Place := { rest := text }
  let start := if start.peek == some (Char.ofNat 0xfeff) then start.step else start
  let (_, st) ← (Scan.all (text.length + 2)).run { place := start }
  return st.tokens

end ConnectClients.Yaml
