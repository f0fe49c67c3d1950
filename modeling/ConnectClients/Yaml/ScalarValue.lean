import ConnectClients.Yaml.Scalar
import ConnectClients.Value.Printer
import ConnectClients.Decimal.FloatLiteral
import ConnectClients.Text.Base64
import ConnectClients.Text.Case
import ConnectClients.Text.Split

/-!
# Values of scalars

The value that a scalar has under its tag. A tag may be given to a text that is not written as the
tag demands; then the scalar has no value.
-/

namespace ConnectClients.Yaml

open Text

/-- Why a scalar has no value, or no text. -/
inductive ScalarFault where
  /-- A number without characters. -/
  | empty
  | notInteger (base : Nat) (text : List Char)
  | integerTooLong (digits : Nat)
  | notFloat (text : List Char)
  | notSwitch (word : List Char)
  | notTime
  | year (n : Nat)
  | month
  | day
  | hour
  | minute
  | second
  | offset (seconds : Int)
  /-- An escape gives the number of no character. -/
  | noCharacter (code : Nat)
  deriving DecidableEq, Repr

/-- Why a document has no value. -/
inductive LoadFault where
  | malformed
  | scalar (fault : ScalarFault)
  deriving DecidableEq, Repr

/-- The greatest number of digits an integer may have. -/
def digitLimit : Nat := 4300

/-- The greatest number that is looked up among the characters. -/
def codeLimit : Nat := 0x7fffffff

def quoted (text : List Char) : List Char :=
  quoteCodes (text.map Char.toNat)

def ScalarFault.message : ScalarFault → String
  | .empty => "string index out of range"
  | .notInteger base text =>
    "invalid literal for int() with base " ++ toString base ++ ": " ++
      String.ofList ((quoted text).take 200)
  | .integerTooLong digits =>
    "Exceeds the limit (" ++ toString digitLimit ++
      " digits) for integer string conversion: value has " ++ toString digits ++
      " digits; use sys.set_int_max_str_digits() to increase the limit"
  | .notFloat text => "could not convert string to float: " ++ String.ofList (quoted text)
  | .notSwitch word => String.ofList (quoted word)
  | .notTime => "'NoneType' object has no attribute 'groupdict'"
  | .year n => "year " ++ toString n ++ " is out of range"
  | .month => "month must be in 1..12"
  | .day => "day is out of range for month"
  | .hour => "hour must be in 0..23"
  | .minute => "minute must be in 0..59"
  | .second => "second must be in 0..59"
  | .offset seconds =>
    "offset must be a timedelta strictly between -timedelta(hours=24) and timedelta(hours=24), not "
      ++ String.ofList (Value.spanText seconds) ++ "."
  | .noCharacter code =>
    if code ≤ codeLimit then "chr() arg not in range(0x110000)"
    else "Python int too large to convert to C int"

def LoadFault.ofFault : Fault → LoadFault
  | .malformed => .malformed
  | .noCharacter code => .scalar (.noCharacter code)

/-! ## Numbers -/

/-- An integer literal in a base. -/
def integerIn (base : Nat) (cs : List Char) : Except LoadFault Int :=
  let digits := (cs.filter isDecimal).length
  if base = 10 ∧ digitLimit < digits then .error (.scalar (.integerTooLong digits))
  else match readInteger? base cs with
    | some n => .ok n
    | none => .error (.scalar (.notInteger base cs))

/-- Digits of base sixty, the most significant one first. -/
def sixties (ds : List Int) : Int :=
  ds.foldl (fun n d => 60 * n + d) 0

/-- The sign of a number, and the rest of it. -/
def splitSign : List Char → Bool × List Char
  | '-' :: rest => (true, rest)
  | '+' :: rest => (false, rest)
  | cs => (false, cs)

/-- An integer: binary, octal, hexadecimal, of base sixty with colons, or decimal. -/
def intValue (text : List Char) : Except LoadFault Int := do
  let (negative, cs) := splitSign (text.filter (· != '_'))
  let n ← match cs with
    | [] => .error (.scalar .empty)
    | ['0'] => .ok 0
    | '0' :: 'b' :: rest => integerIn 2 rest
    | '0' :: 'x' :: rest => integerIn 16 rest
    | '0' :: _ => integerIn 8 cs
    | _ =>
      if cs.contains ':' then sixties <$> (splitOn ':' cs).mapM (integerIn 10)
      else integerIn 10 cs
  return if negative then -n else n

def floatIn (cs : List Char) : Except LoadFault Binary64 :=
  match Decimal.readFloat? cs with
  | some x => .ok x
  | none => .error (.scalar (.notFloat cs))

/-- Digits of base sixty, the least significant one first, the first of them standing for `base`.
The sum is rounded at every step. -/
def sixtiesFrom (base : Nat) (sum : Binary64) : List Binary64 → Binary64
  | [] => sum
  | d :: ds => sixtiesFrom (60 * base) (sum.add (d.scaleBy base)) ds

/-- A float: infinity, not a number, of base sixty with colons, or decimal. -/
def floatValue (text : List Char) : Except LoadFault Binary64 := do
  let low := lower (text.filter (· != '_'))
  if low.isEmpty then throw (.scalar .empty)
  let (negative, cs) := splitSign low
  if cs == ".nan".toList then return .notANumber
  let x ←
    if cs == ".inf".toList then pure (.infinite false)
    else if cs.contains ':' then
      (fun (ds : List Binary64) => sixtiesFrom 1 .zero ds.reverse) <$> (splitOn ':' cs).mapM floatIn
    else floatIn cs
  return if negative then x.neg else x

/-! ## Times -/

def decimalOf (ds : List Char) : Nat := Decimal.digitsValue ds

def isLeapYear (year : Nat) : Bool :=
  year % 4 == 0 && (year % 100 != 0 || year % 400 == 0)

def daysIn (year month : Nat) : Nat :=
  if month = 2 then (if isLeapYear year then 29 else 28)
  else if [4, 6, 9, 11].contains month then 30
  else 31

/-- A day of the calendar. -/
def dayOf (t : TimeText) : Except LoadFault Day :=
  let d : Day := ⟨decimalOf t.year, decimalOf t.month, decimalOf t.day⟩
  if d.year < 1 then .error (.scalar (.year d.year))
  else if d.month < 1 ∨ 12 < d.month then .error (.scalar .month)
  else if d.day < 1 ∨ daysIn d.year d.month < d.day then .error (.scalar .day)
  else .ok d

/-- The offset of a zone, less than a day. -/
def offsetOf : Option (Char × List Char × List Char) → Except LoadFault Int
  | none => .ok 0
  | some (sign, hours, minutes) =>
    let n : Int := 3600 * decimalOf hours + 60 * decimalOf minutes
    let offset := if sign == '-' then -n else n
    if n < 86400 then .ok offset else .error (.scalar (.offset offset))

/-- A day, or a day with a time of day; the fraction of a second is cut to microseconds. -/
def timeValue (text : List Char) : Except LoadFault Value := do
  let cs := (dropSuffix? ['\n'] text).getD text
  match readTime? cs with
  | none => throw (.scalar .notTime)
  | some t =>
    match t.clock with
    | none => return .date (← dayOf t)
    | some (hour, minute, second, fraction) =>
      let offset ← t.zone.mapM offsetOf
      let day ← dayOf t
      let h := decimalOf hour
      let m := decimalOf minute
      let s := decimalOf second
      if 23 < h then throw (.scalar .hour)
      if 59 < m then throw (.scalar .minute)
      if 59 < s then throw (.scalar .second)
      let micro := decimalOf ((fraction ++ List.replicate 6 '0').take 6)
      return .time day ⟨h, m, s, micro, offset⟩

/-! ## Scalars under tags -/

def textValue (s : ScalarText) : Value :=
  match s.broken with
  | some codes => .brokenStr codes
  | none => .str (String.ofList s.text)

def switchValue (text : List Char) : Except LoadFault Bool :=
  let word := lower text
  match boolWord? word with
  | some b => .ok b
  | none => .error (.scalar (.notSwitch word))

/-- The value of a scalar. Tags of collections are not for scalars. -/
def scalarValue (tag : Tag) (s : ScalarText) : Except LoadFault Value :=
  match tag with
  | .null => .ok .null
  | .bool => .bool <$> switchValue s.text
  | .int => .int <$> intValue s.text
  | .float => .float <$> floatValue s.text
  | .binary =>
    if s.text.all (fun c => decide (c.val < 128)) then
      match decodeBase64? s.text with
      | some octets => .ok (.bytes octets)
      | none => .error .malformed
    else .error .malformed
  | .timestamp => timeValue s.text
  | .str => .ok (textValue s)
  | _ => .error .malformed

end ConnectClients.Yaml
