import ConnectClients.Text.CharClass

/-!
# Quoted text

Text between quotes as it is shown in messages: characters without a shape of their own are given
by number, and double quotes are used where the text holds single quotes only.
-/

namespace ConnectClients.Text

/-- The digits of a number in hexadecimal, at least `width` of them. -/
def hex (width n : Nat) : List Char :=
  let ds := Nat.toDigits 16 n
  List.replicate (width - ds.length) '0' ++ ds

/-- The quote that encloses a text. -/
def quoteFor (codes : List Nat) : Char :=
  if codes.contains 39 && !codes.contains 34 then '"' else '\''

/-- One code between quotes. A code that is no character is given by number. -/
def quoteCode (quote : Char) (code : Nat) : List Char :=
  if code == quote.toNat || code == 92 then ['\\', Char.ofNat code]
  else if code == 9 then ['\\', 't']
  else if code == 10 then ['\\', 'n']
  else if code == 13 then ['\\', 'r']
  else if code.isValidChar && isPrintable (Char.ofNat code) then [Char.ofNat code]
  else if code < 0x100 then ['\\', 'x'] ++ hex 2 code
  else if code < 0x10000 then ['\\', 'u'] ++ hex 4 code
  else ['\\', 'U'] ++ hex 8 code

def quoteCodes (codes : List Nat) : List Char :=
  let quote := quoteFor codes
  quote :: codes.flatMap (quoteCode quote) ++ [quote]

/-- A text in quotes. -/
def quote (text : String) : String :=
  String.ofList (quoteCodes (text.toList.map Char.toNat))

/-- One octet between quotes; only ASCII has a shape. -/
def quoteOctet (quote : Char) (octet : Nat) : List Char :=
  if octet < 128 then quoteCode quote octet else ['\\', 'x'] ++ hex 2 octet

/-- Octets in quotes, marked as such. -/
def quoteOctets (octets : List Nat) : List Char :=
  let quote := quoteFor octets
  'b' :: quote :: octets.flatMap (quoteOctet quote) ++ [quote]

end ConnectClients.Text
