import ConnectClients.Pattern.Node

/-!
# Matching

A backtracking matcher. Each part is given what follows it, tries its ways of matching in order and
hands every place it reaches on; the first way in which all that follows matches too is taken.
-/

namespace ConnectClients.Pattern

/-! ## One character -/

def Category.accepts (kind : Category) (asciiOnly : Bool) (c : Char) : Bool :=
  match kind, asciiOnly with
  | .digit, false => Text.isDecimal c
  | .digit, true => c.isDigit
  | .blank, false => Text.isBlank c
  | .blank, true => Text.isAsciiBlank c
  | .word, false => Text.isWord c
  | .word, true => Text.isAsciiWord c

/-- The number that stands for a character under a fold. -/
def Fold.apply : Fold → Nat → Nat
  | .exact, n => n
  | .ascii, n => Text.foldAsciiCode n
  | .full, n => Text.foldCode n

/-- Whether a character with the number `code` is, up to case, one of `lo` to `hi`. -/
def Fold.inRange (fold : Fold) (lo hi code : Nat) : Bool :=
  match fold with
  | .exact => decide (lo ≤ code) && decide (code ≤ hi)
  | .ascii =>
    let folded := Text.foldAsciiCode code
    (decide (lo ≤ folded) && decide (folded ≤ hi)) ||
      (decide (97 ≤ folded) && decide (folded ≤ 122) &&
        decide (lo ≤ folded - 32) && decide (folded - 32 ≤ hi))
  | .full =>
    ((Text.foldPeers (Text.foldCode code)).flatMap Text.foldSources).any fun n =>
      decide (lo ≤ n) && decide (n ≤ hi)

/-- Whether a character with the number `code` is the one numbered `n` up to case. -/
def Fold.same (fold : Fold) (n code : Nat) : Bool :=
  match fold with
  | .exact => n == code
  | .ascii => Text.foldAsciiCode n == Text.foldAsciiCode code
  | .full => (Text.foldPeers (Text.foldCode n)).contains (Text.foldCode code)

def ClassItem.accepts (fold : Fold) (c : Char) : ClassItem → Bool
  | .code n => fold.same n c.toNat
  | .range lo hi => fold.inRange lo hi c.toNat
  | .category kind negated asciiOnly => kind.accepts asciiOnly c != negated

def CharClass.accepts (cls : CharClass) (c : Char) : Bool :=
  cls.items.any (ClassItem.accepts cls.fold c) != cls.negated

/-! ## One position -/

/-- Whether the character at a place is a word character; outside the text there is none. -/
def wordAt (text : Array Char) (asciiOnly : Bool) (pos : Nat) : Bool :=
  match text[pos]? with
  | some c => Category.word.accepts asciiOnly c
  | none => false

/-- Whether exactly one of the characters on the two sides is a word character. -/
def atWordEdge (text : Array Char) (asciiOnly : Bool) (pos : Nat) : Bool :=
  (0 < pos && wordAt text asciiOnly (pos - 1)) != wordAt text asciiOnly pos

def Anchor.holds (text : Array Char) (pos : Nat) : Anchor → Bool
  | .textStart => pos == 0
  | .textEnd => pos == text.size
  | .lineStart => pos == 0 || text[pos - 1]? == some '\n'
  | .lineEnd => pos == text.size || text[pos]? == some '\n'
  | .lastLineEnd => pos == text.size || (pos + 1 == text.size && text[pos]? == some '\n')
  | .wordEdge asciiOnly => !text.isEmpty && atWordEdge text asciiOnly pos
  | .noWordEdge asciiOnly => !text.isEmpty && !atWordEdge text asciiOnly pos

/-! ## The matcher -/

/-- Where a group began and ended when it was last entered and left. -/
structure Capture where
  start : Option Nat := none
  stop : Option Nat := none
  deriving Inhabited, DecidableEq, Repr

/-- The place reached and what the groups hold. -/
structure Cursor where
  pos : Nat
  captures : List (Nat × Capture) := []

namespace Cursor

def capture (c : Cursor) (index : Nat) : Capture :=
  (c.captures.lookup index).getD {}

def setCapture (c : Cursor) (index : Nat) (cap : Capture) : Cursor :=
  { c with captures := (index, cap) :: c.captures.filter (·.1 != index) }

/-- The span a group holds, if it has been left since it was entered. -/
def span? (c : Cursor) (index : Nat) : Option (Nat × Nat) :=
  match c.capture index with
  | ⟨some a, some b⟩ => if a ≤ b then some (a, b) else none
  | _ => none

end Cursor

/-- What is left to match, from a place on. -/
abbrev Rest := Cursor → Option Cursor

/-- Whether the text at `b` repeats the `count` characters at `a`. -/
def sameText (text : Array Char) (fold : Fold) (a b count : Nat) : Bool :=
  (List.range count).all fun i =>
    match text[a + i]?, text[b + i]? with
    | some x, some y => fold.apply x.toNat == fold.apply y.toNat
    | _, _ => false

/-- Repeats `step` as often as it can. Once there are `least` rounds, a round that starts where the
one before it started is not tried. -/
def repeatGreedy (step : Rest → Rest) (least : Nat) (most : Option Nat) (rest : Rest) :
    Nat → Nat → Option Nat → Rest
  | 0, _, _, c => rest c
  | fuel + 1, count, last, c =>
    if count < least then
      step (repeatGreedy step least most rest fuel (count + 1) last) c
    else if most.all (fun m => decide (count < m)) && last != some c.pos then
      match step (repeatGreedy step least most rest fuel (count + 1) (some c.pos)) c with
      | some r => some r
      | none => rest c
    else rest c

/-- Repeats `step` as seldom as it can. -/
def repeatLazy (step : Rest → Rest) (least : Nat) (most : Option Nat) (rest : Rest) :
    Nat → Nat → Option Nat → Rest
  | 0, _, _, c => rest c
  | fuel + 1, count, last, c =>
    if count < least then
      step (repeatLazy step least most rest fuel (count + 1) last) c
    else
      match rest c with
      | some r => some r
      | none =>
        if most.all (fun m => decide (count < m)) && last != some c.pos then
          step (repeatLazy step least most rest fuel (count + 1) (some c.pos)) c
        else none

/-- Repeats `step` as often as it can, each round for good. -/
def repeatPossessive (step : Rest → Rest) (least : Nat) (most : Option Nat) (rest : Rest) :
    Nat → Nat → Option Nat → Rest
  | 0, _, _, c => rest c
  | fuel + 1, count, last, c =>
    if count < least then
      match step some c with
      | some r => repeatPossessive step least most rest fuel (count + 1) last r
      | none => none
    else if most.all (fun m => decide (count < m)) && last != some c.pos then
      match step some c with
      | some r => repeatPossessive step least most rest fuel (count + 1) (some c.pos) r
      | none => rest c
    else rest c

/-- Matches a part and then `rest`. -/
def Node.run (text : Array Char) : Node → Rest → Rest
  | .empty, rest, c => rest c
  | .one cls, rest, c =>
    match text[c.pos]? with
    | some x => if cls.accepts x then rest { c with pos := c.pos + 1 } else none
    | none => none
  | .anchor test, rest, c => if test.holds text c.pos then rest c else none
  | .seq a b, rest, c => a.run text (b.run text rest) c
  | .alt a b, rest, c =>
    match a.run text rest c with
    | some r => some r
    | none => b.run text rest c
  | .group i body, rest, c =>
    body.run text
      (fun d => rest (d.setCapture i { d.capture i with stop := some d.pos }))
      (c.setCapture i { c.capture i with start := some c.pos })
  | .backref i fold, rest, c =>
    match c.span? i with
    | some (a, b) =>
      if sameText text fold a c.pos (b - a) then rest { c with pos := c.pos + (b - a) } else none
    | none => none
  | .conditional i yes no, rest, c =>
    if (c.span? i).isSome then yes.run text rest c else no.run text rest c
  | .ahead negated body, rest, c =>
    match body.run text some c with
    | some r => if negated then none else rest { r with pos := c.pos }
    | none => if negated then rest c else none
  | .behind negated width body, rest, c =>
    if c.pos < width.least then
      if negated then rest c else none
    else
      match body.run text some { c with pos := c.pos - width.least } with
      | some r => if negated then none else rest { r with pos := c.pos }
      | none => if negated then rest c else none
  | .atomic body, rest, c =>
    match body.run text some c with
    | some r => rest r
    | none => none
  | .repetition appetite least most body, rest, c =>
    let fuel := least + (text.size - c.pos) + 2
    match appetite with
    | .greedy => repeatGreedy (body.run text) least most rest fuel 0 none c
    | .lazy => repeatLazy (body.run text) least most rest fuel 0 none c
    | .possessive => repeatPossessive (body.run text) least most rest fuel 0 none c

/-- Whether a part matches somewhere in the text. -/
def Node.occursIn (node : Node) (text : Array Char) : Bool :=
  (List.range (text.size + 1)).any fun i => (node.run text some { pos := i }).isSome

end ConnectClients.Pattern
