import ConnectClients.Value
import ConnectClients.Decimal.Shortest
import ConnectClients.Text.Quoted

/-!
# Values in messages

`Value.text` is how a value is shown inside a message, `Value.plainText` how it is shown by itself:
there a string has no quotes and a time is written as in a calendar.
-/

namespace ConnectClients

/-- Doubles are written without an exponent from `10 ^ least` on up to below `10 ^ most`. -/
structure FloatFormat where
  least : Int
  most : Int
  exponentDigits : Nat

/-- Positional from 0.0001 to below 10^16, always with a point; exponents have a sign and at least
two digits. -/
def Value.floatFormat : FloatFormat := ⟨-4, 16, 2⟩

def digitChars (ds : List Nat) : List Char :=
  ds.map fun d => Char.ofNat (48 + d)

/-- A number with at least `width` digits. -/
def padded (width n : Nat) : List Char :=
  let ds := Nat.toDigits 10 n
  List.replicate (width - ds.length) '0' ++ ds

/-- Digits with the point at its place. -/
def positional (d : Decimal.Digits) : List Char :=
  match d.point with
  | .ofNat n =>
    if n == 0 then '0' :: '.' :: digitChars d.digits
    else if d.digits.length ≤ n then
      digitChars d.digits ++ List.replicate (n - d.digits.length) '0' ++ ['.', '0']
    else digitChars (d.digits.take n) ++ '.' :: digitChars (d.digits.drop n)
  | .negSucc n => '0' :: '.' :: List.replicate (n + 1) '0' ++ digitChars d.digits

/-- Digits with the point behind the first and an exponent. -/
def exponential (fmt : FloatFormat) (d : Decimal.Digits) : List Char :=
  let power := d.point - 1
  let point := if d.digits.length ≤ 1 then [] else ['.']
  digitChars (d.digits.take 1) ++ point ++ digitChars (d.digits.drop 1) ++
    ['e', if power < 0 then '-' else '+'] ++ padded fmt.exponentDigits power.natAbs

def Binary64.text (fmt : FloatFormat) : Binary64 → List Char
  | .notANumber => "nan".toList
  | .infinite negative => (if negative then ['-'] else []) ++ "inf".toList
  | .finite negative m e =>
    let d := Decimal.shortest m e
    (if negative then ['-'] else []) ++
      (if fmt.least < d.point && d.point ≤ fmt.most then positional d else exponential fmt d)

namespace Value

def intText (n : Int) : List Char := (toString n).toList

def commaList (items : List (List Char)) : List Char :=
  match items with
  | [] => []
  | [x] => x
  | x :: rest => x ++ rest.flatMap fun y => ',' :: ' ' :: y

/-- The time span of an offset, whose days may be negative while its seconds are not. -/
def spanText (offset : Int) : List Char :=
  let days := offset / 86400
  let seconds := offset % 86400
  let parts :=
    (if days == 0 then [] else ["days=".toList ++ intText days]) ++
    (if seconds == 0 then [] else ["seconds=".toList ++ intText seconds])
  "datetime.timedelta(".toList ++ (if parts.isEmpty then ['0'] else commaList parts) ++ [')']

def zoneText (offset : Int) : List Char :=
  if offset == 0 then "datetime.timezone.utc".toList
  else "datetime.timezone(".toList ++ spanText offset ++ [')']

def timeText (d : Day) (t : TimeOfDay) : List Char :=
  let clock :=
    if t.micro != 0 then [t.hour, t.minute, t.second, t.micro]
    else if t.second != 0 then [t.hour, t.minute, t.second]
    else [t.hour, t.minute]
  let zone := t.offset.toList.map fun offset => "tzinfo=".toList ++ zoneText offset
  "datetime.datetime(".toList ++
    commaList (([d.year, d.month, d.day] ++ clock).map (padded 1) ++ zone) ++ [')']

mutual

/-- A value as it is shown inside a message, or inside of another one. -/
def chars : Value → List Char
  | .null => "None".toList
  | .bool b => if b then "True".toList else "False".toList
  | .int n => intText n
  | .float x => x.text floatFormat
  | .str s => Text.quoteCodes (s.toList.map Char.toNat)
  | .brokenStr codes => Text.quoteCodes codes
  | .bytes octets => Text.quoteOctets (octets.map UInt8.toNat)
  | .date d =>
    "datetime.date(".toList ++ commaList ([d.year, d.month, d.day].map (padded 1)) ++ [')']
  | .time d t => timeText d t
  | .list items => '[' :: commaList (charsOfItems items) ++ [']']
  | .pair k v => '(' :: k.chars ++ ',' :: ' ' :: v.chars ++ [')']
  | .set items =>
    if items.isEmpty then "set()".toList else '\x7b' :: commaList (charsOfItems items) ++ ['\x7d']
  | .dict entries => '\x7b' :: commaList (charsOfEntries entries) ++ ['\x7d']
  | .cycle content =>
    if content.kind = .dict then "\x7b...\x7d".toList else "[...]".toList

def charsOfItems : List Value → List (List Char)
  | [] => []
  | v :: rest => v.chars :: charsOfItems rest

def charsOfEntries : List (Value × Value) → List (List Char)
  | [] => []
  | (k, v) :: rest => (k.chars ++ ':' :: ' ' :: v.chars) :: charsOfEntries rest

end

def text (v : Value) : String := String.ofList v.content.chars

/-- An offset written as hours and minutes, and seconds if there are any. -/
def offsetText (offset : Int) : List Char :=
  let n := offset.natAbs
  (if offset < 0 then '-' else '+') :: padded 2 (n / 3600) ++ ':' :: padded 2 (n / 60 % 60) ++
    (if n % 60 == 0 then [] else ':' :: padded 2 (n % 60))

def dayText (d : Day) : List Char :=
  padded 4 d.year ++ '-' :: padded 2 d.month ++ '-' :: padded 2 d.day

/-- A value as it is shown by itself. -/
def plainChars : Value → List Char
  | .str s => s.toList
  | .brokenStr codes => codes.map Char.ofNat
  | .date d => dayText d
  | .time d t =>
    dayText d ++ ' ' :: padded 2 t.hour ++ ':' :: padded 2 t.minute ++ ':' :: padded 2 t.second ++
      (if t.micro == 0 then [] else '.' :: padded 6 t.micro) ++
      (t.offset.toList.flatMap offsetText)
  | v => v.chars

def plainText (v : Value) : String := String.ofList v.plainChars

end Value

end ConnectClients
