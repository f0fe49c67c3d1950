import ConnectClients.Text.CharNameTable

/-!
# Characters by name

`codeOfName?` finds a character by its name or by one of its other names. ASCII letters of a name may
have either case, except in the name of an ideograph, which ends in its code point.
-/

namespace ConnectClients.Text

/-- The code points of the unified ideographs, as inclusive ranges. -/
def ideographRanges : List (Nat × Nat) := [
  (0x3400, 0x4dbf), (0x4e00, 0x9fff), (0x20000, 0x2a6df), (0x2a700, 0x2b738), (0x2b740, 0x2b81d),
  (0x2b820, 0x2cea1), (0x2ceb0, 0x2ebe0), (0x30000, 0x3134a)]

/-- What the names of ideographs start with. -/
def ideographStart : String := "CJK UNIFIED IDEOGRAPH-"

/-- The value of a digit of sixteen, letters being capitals. -/
def capitalHexValue? (c : Char) : Option Nat :=
  if c.isDigit then some (c.toNat - 48)
  else if 'A' ≤ c ∧ c ≤ 'F' then some (c.toNat - 55)
  else none

/-- The ideograph whose code point is written with four or five digits. -/
def ideograph? (digits : List Char) : Option Nat := do
  if digits.length ≠ 4 ∧ digits.length ≠ 5 then none
  let code ← digits.foldlM (fun n c => (capitalHexValue? c).map (n * 16 + ·)) 0
  if ideographRanges.any fun r => decide (r.1 ≤ code) && decide (code ≤ r.2) then some code
  else none

/-- The code point with a name that a run gives. -/
def codeInRun? (name : String) (run : Nat × List String) : Option Nat :=
  (run.2.idxOf? name).map (run.1 + ·)

/-- The code point of a character, given its name. -/
def codeOfName? (name : List Char) : Option Nat :=
  match ideographStart.toList.isPrefixOf? name with
  | some digits => ideograph? digits
  | none =>
    let shown := String.ofList (name.map Char.toUpper)
    if shown.isEmpty then none
    else (nameRuns.findSome? (codeInRun? shown)).orElse fun _ => nameAliases.lookup shown

end ConnectClients.Text
