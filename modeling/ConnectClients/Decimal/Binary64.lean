/-!
# Binary floating point

A double is a sign, a mantissa below 2^53 and a power of two. Every operation is computed exactly
and then rounded to the nearest double, a tie going to the even mantissa.
-/

namespace ConnectClients

inductive Binary64 where
  /-- The number `mantissa * 2 ^ exponent`. The mantissa has 53 bits unless the exponent is the
  least one, -1074. -/
  | finite (negative : Bool) (mantissa : Nat) (exponent : Int)
  | infinite (negative : Bool)
  | notANumber
  deriving DecidableEq, Repr

namespace Binary64

/-- The least exponent. -/
def minExponent : Int := -1074

/-- The greatest exponent. -/
def maxExponent : Int := 971

def zero : Binary64 := .finite false 0 minExponent

/-- The quotient rounded to a whole number, a tie going to the even one. -/
def roundHalfEven (num den : Nat) : Nat :=
  let q := num / den
  let r := num % den
  if 2 * r < den then q
  else if den < 2 * r then q + 1
  else if q % 2 = 0 then q else q + 1

/-- The numerator and the denominator of `num / den / 2 ^ e`. -/
def scale (num den : Nat) (e : Int) : Nat × Nat :=
  match e with
  | .ofNat n => (num, den * Nat.pow 2 n)
  | .negSucc n => (num * Nat.pow 2 (n + 1), den)

/-- The exponent at which a positive quotient has a mantissa of 53 bits, or the least exponent. -/
def exponentOf (num den : Nat) : Int :=
  let guess : Int := (num.log2 : Int) - den.log2 - 52
  let (n, d) := scale num den guess
  max (if n / d < Nat.pow 2 52 then guess - 1 else guess) minExponent

/-- The double nearest to a quotient. -/
def ofRatio (negative : Bool) (num den : Nat) : Binary64 :=
  if num = 0 then .finite negative 0 minExponent
  else
    let e := exponentOf num den
    let (n, d) := scale num den e
    let m := roundHalfEven n d
    let (m, e) := if m = Nat.pow 2 53 then (Nat.pow 2 52, e + 1) else (m, e)
    if maxExponent < e then .infinite negative else .finite negative m e

/-- The double nearest to `digits * 10 ^ power`. Powers that lead beyond every double, or below, are
not computed. -/
def ofDecimal (negative : Bool) (digits : Nat) (power : Int) : Binary64 :=
  let magnitude : Int := (digits.log2 : Int) * 3 / 10 + power
  if digits = 0 then .finite negative 0 minExponent
  else if 400 < magnitude then .infinite negative
  else if magnitude < -400 then .finite negative 0 minExponent
  else match power with
    | .ofNat n => ofRatio negative (digits * Nat.pow 10 n) 1
    | .negSucc n => ofRatio negative digits (Nat.pow 10 (n + 1))

/-- The numerator of a finite double over `2 ^ -minExponent`, with its sign. -/
def units : Binary64 → Int
  | .finite negative m e =>
    let n : Int := m * Nat.pow 2 (e - minExponent).toNat
    if negative then -n else n
  | _ => 0

def isNegative : Binary64 → Bool
  | .finite negative _ _ => negative
  | .infinite negative => negative
  | .notANumber => false

def neg : Binary64 → Binary64
  | .finite negative m e => .finite (!negative) m e
  | .infinite negative => .infinite (!negative)
  | .notANumber => .notANumber

/-- The number of units in the double one. -/
def unit : Nat := Nat.pow 2 1074

def add : Binary64 → Binary64 → Binary64
  | .notANumber, _ | _, .notANumber => .notANumber
  | .infinite a, .infinite b => if a = b then .infinite a else .notANumber
  | .infinite a, _ => .infinite a
  | _, .infinite b => .infinite b
  | a, b =>
    let sum := a.units + b.units
    if sum = 0 then .finite (a.isNegative && b.isNegative) 0 minExponent
    else ofRatio (sum < 0) sum.natAbs unit

/-- A double times a whole number that is itself a double. -/
def scaleBy (n : Nat) : Binary64 → Binary64
  | .finite negative m e =>
    ofRatio negative (m * n * Nat.pow 2 (e - minExponent).toNat) unit
  | x => x

/-- The whole number a double is, if it is one. -/
def toInt? : Binary64 → Option Int
  | x@(.finite ..) => if x.units % unit = 0 then some (x.units / unit) else none
  | _ => none

end Binary64

end ConnectClients
