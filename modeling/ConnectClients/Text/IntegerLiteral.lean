import ConnectClients.Text.CharClass

/-!
# Integer literals

A literal is read with blanks around it, one sign, digits of any script and single underscores
between digits. A base other than ten may be announced by `0b`, `0o` or `0x` in either case, with an
underscore behind it.
-/

namespace ConnectClients.Text

/-- The value of a digit in bases up to thirty-six. -/
def digitValue? (c : Char) : Option Nat :=
  if decide ('a' ≤ c) && decide (c ≤ 'z') then some (c.toNat - 87)
  else if decide ('A' ≤ c) && decide (c ≤ 'Z') then some (c.toNat - 55)
  else decimalValue? c

/-- Digits with single underscores between them, after the value of those read before; `open`
says that a digit must follow. -/
def readDigits? (base : Nat) : (acc : Nat) → (owed : Bool) → List Char → Option Nat
  | acc, owed, [] => if owed then none else some acc
  | acc, owed, c :: rest =>
    if c == '_' then
      if owed then none else readDigits? base acc true rest
    else match digitValue? c with
      | some d => if d < base then readDigits? base (acc * base + d) false rest else none
      | none => none

/-- The letter that announces a base. -/
def baseLetter? : Nat → Option Char
  | 2 => some 'b'
  | 8 => some 'o'
  | 16 => some 'x'
  | _ => none

/-- The digits of a literal, behind the announcement of its base if there is one. -/
def readMagnitude? (base : Nat) (cs : List Char) : Option Nat :=
  match cs with
  | '0' :: l :: rest =>
    if (baseLetter? base).any (fun b => l.toLower == b) then
      match rest with
      | '_' :: rest => readDigits? base 0 true rest
      | rest => readDigits? base 0 true rest
    else readDigits? base 0 true cs
  | _ => readDigits? base 0 true cs

/-- The blanks that may stand around a number. The ASCII separators are none. -/
def isNumberBlank (c : Char) : Bool :=
  isAsciiBlank c || wideBlanks.contains c.toNat

/-- A number without the blanks around it. -/
def trimNumber (cs : List Char) : List Char :=
  ((cs.dropWhile isNumberBlank).reverse.dropWhile isNumberBlank).reverse

/-- The integer a literal stands for. -/
def readInteger? (base : Nat) (cs : List Char) : Option Int :=
  match trimNumber cs with
  | '-' :: rest => (readMagnitude? base rest).map fun n => -(n : Int)
  | '+' :: rest => (readMagnitude? base rest).map Int.ofNat
  | rest => (readMagnitude? base rest).map Int.ofNat

end ConnectClients.Text
