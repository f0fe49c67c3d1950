import ConnectClients.Text.Quoted

/-!
# Text as octets

UTF-8 in its strict form: every character has one encoding, and octets that encode no character are
refused with the place and the reason.
-/

namespace ConnectClients.Text

/-! ## Encoding -/

/-- The octets of a character. -/
def encodeChar (c : Char) : List UInt8 :=
  let n := c.toNat
  if n < 0x80 then [.ofNat n]
  else if n < 0x800 then [.ofNat (0xc0 + n / 64), .ofNat (0x80 + n % 64)]
  else if n < 0x10000 then
    [.ofNat (0xe0 + n / 4096), .ofNat (0x80 + n / 64 % 64), .ofNat (0x80 + n % 64)]
  else
    [.ofNat (0xf0 + n / 262144), .ofNat (0x80 + n / 4096 % 64), .ofNat (0x80 + n / 64 % 64),
      .ofNat (0x80 + n % 64)]

def encode (text : String) : List UInt8 :=
  text.toList.flatMap encodeChar

/-! ## Decoding -/

inductive Utf8Reason where
  /-- An octet that starts no character. -/
  | start
  /-- An octet that cannot follow the ones before it. -/
  | continuation
  /-- The octets end inside a character. -/
  | ending
  deriving DecidableEq, Repr

/-- The octets that could not be decoded: where they start, how many they are and the first one. -/
structure Utf8Fault where
  position : Nat
  length : Nat
  octet : UInt8
  reason : Utf8Reason
  deriving DecidableEq, Repr

namespace Utf8Reason

def text : Utf8Reason → String
  | .start => "invalid start byte"
  | .continuation => "invalid continuation byte"
  | .ending => "unexpected end of data"

end Utf8Reason

/-- A number below 256 in two digits. -/
def octetText (b : UInt8) : String :=
  String.ofList (hex 2 b.toNat)

def Utf8Fault.message (f : Utf8Fault) : String :=
  "'utf-8' codec can't decode " ++
    (if f.length = 1 then
      "byte 0x" ++ octetText f.octet ++ " in position " ++ toString f.position
    else
      "bytes in position " ++ toString f.position ++ "-" ++ toString (f.position + f.length - 1)) ++
    ": " ++ f.reason.text

/-- A character of which some octets have been read. -/
structure PartialChar where
  position : Nat
  octet : UInt8
  /-- How many octets have been read. -/
  read : Nat
  /-- How many are still to come. -/
  missing : Nat
  /-- The least and the greatest octet that may come next. -/
  least : Nat
  most : Nat
  code : Nat

/-- A character after its first octet, given where that is. Long forms of short codes, halves of
pairs and codes beyond the last character are excluded by the bounds of the second octet. -/
def PartialChar.ofLead? (position : Nat) (octet : UInt8) : Option PartialChar :=
  let n := octet.toNat
  if n < 0xc2 then none
  else if n < 0xe0 then some ⟨position, octet, 1, 1, 0x80, 0xbf, n - 0xc0⟩
  else if n < 0xf0 then
    some ⟨position, octet, 1, 2, if n = 0xe0 then 0xa0 else 0x80, if n = 0xed then 0x9f else 0xbf,
      n - 0xe0⟩
  else if n < 0xf5 then
    some ⟨position, octet, 1, 3, if n = 0xf0 then 0x90 else 0x80, if n = 0xf4 then 0x8f else 0xbf,
      n - 0xf0⟩
  else none

def PartialChar.fault (p : PartialChar) (reason : Utf8Reason) : Utf8Fault :=
  ⟨p.position, p.read, p.octet, reason⟩

/-- Decodes the octets from a position on, inside of a character or between two. -/
def decodeFrom (position : Nat) : Option PartialChar → List UInt8 → Except Utf8Fault (List Char)
  | none, [] => .ok []
  | some p, [] => .error (p.fault .ending)
  | none, b :: rest =>
    if b.toNat < 0x80 then
      (decodeFrom (position + 1) none rest).map (Char.ofNat b.toNat :: ·)
    else match PartialChar.ofLead? position b with
      | some p => decodeFrom (position + 1) (some p) rest
      | none => .error ⟨position, 1, b, .start⟩
  | some p, b :: rest =>
    if p.least ≤ b.toNat ∧ b.toNat ≤ p.most then
      let code := p.code * 64 + (b.toNat - 0x80)
      if p.missing ≤ 1 then
        (decodeFrom (position + 1) none rest).map (Char.ofNat code :: ·)
      else
        decodeFrom (position + 1)
          (some ⟨p.position, p.octet, p.read + 1, p.missing - 1, 0x80, 0xbf, code⟩) rest
    else .error (p.fault .continuation)

/-- The text that octets encode. -/
def decode (octets : List UInt8) : Except Utf8Fault String :=
  (decodeFrom 0 none octets).map String.ofList

/-! ## Lines -/

/-- A text with every kind of line end written as a newline. -/
def unifyNewlines : List Char → List Char
  | [] => []
  | '\r' :: '\n' :: rest => '\n' :: unifyNewlines rest
  | '\r' :: rest => '\n' :: unifyNewlines rest
  | c :: rest => c :: unifyNewlines rest

end ConnectClients.Text
