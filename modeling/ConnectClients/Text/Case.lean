import ConnectClients.Text.CharClass
import ConnectClients.Text.CaseTable

/-!
# Upper and lower case

Full case mapping: one character may become several, and a capital sigma at the end of a word
becomes the final sigma. `foldCode` is the one-to-one mapping under which two letters are compared
without regard to case.
-/

namespace ConnectClients.Text

/-- The code point that the first run holding `code` maps it to. -/
def mapByRuns (runs : List (Nat × Nat × Nat × Nat × Nat)) (code : Nat) : Nat :=
  match runs.find? (fun (first, last, stride, _, _) =>
      decide (first ≤ code) && decide (code ≤ last) && (code - first) % stride == 0) with
  | some (_, _, _, up, down) => code + up - down
  | none => code

/-- An upper-case letter. -/
def isUpper (c : Char) : Bool :=
  if c.val < 128 then c.isUpper else inRuns upperRuns c.toNat

/-- A lower-case letter. -/
def isLower (c : Char) : Bool :=
  if c.val < 128 then c.isLower else inRuns lowerRuns c.toNat

/-- The upper-case form of one character. -/
def upperOf (c : Char) : List Char :=
  if c.val < 128 then [c.toUpper]
  else match toUpperSequences.lookup c.toNat with
    | some codes => codes.map Char.ofNat
    | none => [Char.ofNat (mapByRuns toUpperRuns c.toNat)]

/-- A letter with case that is not looked through. -/
def isCased (c : Char) : Bool :=
  if c.val < 128 then c.isAlpha else inRuns casedRuns c.toNat

/-- A character that is looked through when the neighbours of a capital sigma are sought. -/
def isCaseIgnorable (c : Char) : Bool :=
  if c.val < 128 then c == '\'' || c == '.' || c == ':' || c == '^' || c == '\x60'
  else inRuns caseIgnorableRuns c.toNat

/-- Whether the next letter, ignorable characters aside, has case. -/
def seesCased (cs : List Char) : Bool :=
  (cs.dropWhile isCaseIgnorable).head?.any isCased

/-- The lower-case form of one character, whatever stands beside it. -/
def lowerOf (c : Char) : List Char :=
  if c.val < 128 then [c.toLower]
  else if c.toNat == 0x130 then ['i', Char.ofNat 0x307]
  else [Char.ofNat (mapByRuns toLowerRuns c.toNat)]

/-- Lower case of `cs`, which stands behind the characters `before` (last one first). -/
def lowerAfter (before : List Char) : List Char → List Char
  | [] => []
  | c :: rest =>
    (if c.toNat == 0x3a3 && seesCased before && !seesCased rest then [Char.ofNat 0x3c2]
      else lowerOf c) ++ lowerAfter (c :: before) rest

/-- The lower-case form of a text. -/
def lower (cs : List Char) : List Char :=
  lowerAfter [] cs

/-! ## Comparison without regard to case -/

/-- The lower-case code point that stands for a letter in a comparison without case. -/
def foldCode (code : Nat) : Nat :=
  if code < 128 then
    if 65 ≤ code ∧ code ≤ 90 then code + 32 else code
  else if code == 0x130 then 0x69
  else mapByRuns toLowerRuns code

/-- The folded code points that count as the folded code point `code`: itself, and those with the
same upper case. -/
def foldPeers (code : Nat) : List Nat :=
  code :: (sameUpperLetters.lookup code).getD []

/-- The code points that fold to `code`. -/
def foldSources (code : Nat) : List Nat :=
  let own := if foldCode code == code then [code] else []
  let ascii := if 97 ≤ code ∧ code ≤ 122 then [code - 32] else []
  let dotted := if code == 0x69 then [0x130] else []
  own ++ ascii ++ dotted ++ toLowerRuns.filterMap fun (first, last, stride, up, down) =>
    let source := code + down - up
    if first ≤ source ∧ source ≤ last ∧ (source - first) % stride = 0 then some source else none

/-- The fold that knows ASCII letters only. -/
def foldAsciiCode (code : Nat) : Nat :=
  if 65 ≤ code ∧ code ≤ 90 then code + 32 else code

end ConnectClients.Text
