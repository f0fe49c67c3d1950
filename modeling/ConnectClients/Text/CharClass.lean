import ConnectClients.Text.WordTable
import ConnectClients.Text.NameTable
import ConnectClients.Text.PrintTable

/-!
# Character classes

Words, decimal digits, blanks, identifiers and printable characters, for every script. Each class
has its ASCII part written out and takes the rest from a table, so that a statement about ASCII
text never has to look into a table.
-/

namespace ConnectClients.Text

/-- Whether a code point lies in one of the inclusive ranges. -/
def inRanges (ranges : List (Nat × Nat)) (code : Nat) : Bool :=
  ranges.any fun r => decide (r.1 ≤ code) && decide (code ≤ r.2)

/-- Whether a code point lies in one of the runs `(first, last, stride)`. -/
def inRuns (runs : List (Nat × Nat × Nat)) (code : Nat) : Bool :=
  runs.any fun (first, last, stride) =>
    decide (first ≤ code) && decide (code ≤ last) && (code - first) % stride == 0

/-- ASCII letters, ASCII digits and the underscore. -/
def isAsciiWord (c : Char) : Bool :=
  c.isAlphanum || c == '_'

/-- A word character: a letter or a number of any script, or the underscore. -/
def isWord (c : Char) : Bool :=
  if c.val < 128 then isAsciiWord c else inRanges letterNumberRanges c.toNat

/-- The value of a decimal digit of any script. -/
def decimalValue? (c : Char) : Option Nat :=
  if c.val < 128 then
    if c.isDigit then some (c.toNat - '0'.toNat) else none
  else
    (decimalZeros.find? fun z => decide (z ≤ c.toNat) && decide (c.toNat < z + 10)).map
      fun z => c.toNat - z

/-- A decimal digit of any script. -/
def isDecimal (c : Char) : Bool :=
  (decimalValue? c).isSome

/-- The blanks of ASCII that a pattern restricted to ASCII knows. -/
def isAsciiBlank (c : Char) : Bool :=
  c == ' ' || c == '\t' || c == '\n' || c == '\x0b' || c == '\x0c' || c == '\r'

/-- The blanks beyond ASCII: the next-line control and every space, line and paragraph separator. -/
def wideBlanks : List Nat :=
  [0x85, 0xa0, 0x1680, 0x2000, 0x2001, 0x2002, 0x2003, 0x2004, 0x2005, 0x2006, 0x2007, 0x2008,
   0x2009, 0x200a, 0x2028, 0x2029, 0x202f, 0x205f, 0x3000]

/-- White space: the ASCII blanks, the four ASCII separators, and the blanks beyond ASCII. -/
def isBlank (c : Char) : Bool :=
  if c.val < 128 then isAsciiBlank c || (decide (0x1c ≤ c.toNat) && decide (c.toNat ≤ 0x1f))
  else wideBlanks.contains c.toNat

/-- A character that may start an identifier. -/
def isNameStart (c : Char) : Bool :=
  if c.val < 128 then c.isAlpha || c == '_' else inRanges nameStartRanges c.toNat

/-- A character that may continue an identifier. -/
def isNameContinue (c : Char) : Bool :=
  if c.val < 128 then isAsciiWord c else inRanges nameContinueRanges c.toNat

/-- An identifier: one starting character, then continuing ones. -/
def isName : List Char → Bool
  | [] => false
  | c :: rest => isNameStart c && rest.all isNameContinue

/-- A character with a shape of its own; the blank is the only separator among them. -/
def isPrintable (c : Char) : Bool :=
  if c.val < 128 then decide (0x20 ≤ c.toNat) && decide (c.toNat < 0x7f)
  else !inRanges unprintableRanges c.toNat

/-- The text without the blanks before its first and after its last other character. -/
def trim (cs : List Char) : List Char :=
  ((cs.dropWhile isBlank).reverse.dropWhile isBlank).reverse

end ConnectClients.Text
