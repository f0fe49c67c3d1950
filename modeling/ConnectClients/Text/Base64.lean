/-!
# Base 64

Groups of four characters stand for three octets. Characters of no value are passed over, and so is
padding before the second character of a group.
-/

namespace ConnectClients.Text

/-- The six bits of a character. -/
def sixBits? (c : Char) : Option Nat :=
  if c.isUpper then some (c.toNat - 65)
  else if c.isLower then some (c.toNat - 71)
  else if c.isDigit then some (c.toNat + 4)
  else if c == '+' then some 62
  else if c == '/' then some 63
  else none

/-- What is decoded of a group: how many characters, and the bits that fill no octet yet. -/
structure Group where
  taken : Nat := 0
  left : Nat := 0
  pads : Nat := 0

/-- Decodes the rest of a text. The padding that completes a group ends the text, and without it
the text has to end between two groups. -/
def decodeGroups : Group → List Char → Option (List UInt8)
  | g, [] => if g.taken = 0 then some [] else none
  | g, '=' :: rest =>
    if g.taken < 2 then decodeGroups g rest
    else if 4 ≤ g.taken + g.pads + 1 then some []
    else decodeGroups { g with pads := g.pads + 1 } rest
  | g, c :: rest =>
    match sixBits? c with
    | none => decodeGroups g rest
    | some bits =>
      match g.taken with
      | 0 => decodeGroups { taken := 1, left := bits } rest
      | 1 =>
        (decodeGroups { taken := 2, left := bits % 16 } rest).map
          (.ofNat (g.left * 4 + bits / 16) :: ·)
      | 2 =>
        (decodeGroups { taken := 3, left := bits % 4 } rest).map
          (.ofNat (g.left * 16 + bits / 4) :: ·)
      | _ => (decodeGroups {} rest).map (.ofNat (g.left * 64 + bits) :: ·)

/-- The octets that a text stands for. -/
def decodeBase64? (cs : List Char) : Option (List UInt8) :=
  decodeGroups {} cs

end ConnectClients.Text
