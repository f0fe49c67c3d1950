import ConnectClients.Decimal.Binary64

/-!
# Shortest decimal digits

The fewest digits of a decimal that is read back as a given double, and of those the digits nearest
to it. Grids of one, two and more digits are tried in turn: if a grid has a point in the interval of
numbers that are rounded to the double, one of the two points beside the double is in it.
-/

namespace ConnectClients.Decimal

/-- Digits and the place of the point: the number `0.d₁d₂… * 10 ^ point`. -/
structure Digits where
  digits : List Nat
  point : Int
  deriving DecidableEq, Repr

/-- The decimal digits of a number, from the highest. -/
def digitsOf (n : Nat) : List Nat :=
  (Nat.toDigits 10 n).map fun c => c.toNat - '0'.toNat

/-- The interval of numbers that are rounded to `mantissa * 2 ^ exponent`, in quarters of the last
place: from `low` to `high` around `middle`, with its ends if the mantissa is even. -/
structure Interval where
  low : Nat
  middle : Nat
  high : Nat
  closed : Bool

/-- The interval below is half as wide where the next double below has a smaller exponent. -/
def intervalOf (mantissa : Nat) (exponent : Int) : Interval :=
  let narrow := mantissa = Nat.pow 2 52 ∧ Binary64.minExponent < exponent
  ⟨4 * mantissa - (if narrow then 1 else 2), 4 * mantissa, 4 * mantissa + 2, mantissa % 2 = 0⟩

/-- Whether `num / den` lies in an interval. -/
def Interval.contains (i : Interval) (num den : Nat) : Bool :=
  if i.closed then decide (i.low * den ≤ num) && decide (num ≤ i.high * den)
  else decide (i.low * den < num) && decide (num < i.high * den)

/-- The number `n * 10 ^ power` in units of `2 ^ exponent / 4`, as a quotient. -/
def toQuarters (n : Nat) (power exponent : Int) : Nat × Nat :=
  let e := exponent - 2
  (n * Nat.pow 10 power.toNat * Nat.pow 2 (-e).toNat,
    Nat.pow 10 (-power).toNat * Nat.pow 2 e.toNat)

/-- The point of the grid of multiples of `10 ^ power` nearest to the middle of an interval, if it
or its neighbour lies in the interval. -/
def nearestOnGrid? (i : Interval) (exponent power : Int) : Option Nat :=
  let (num, den) := toQuarters 1 power exponent
  let floor := i.middle * den / num
  let below := if i.contains (floor * num) den then some floor else none
  let above := if i.contains ((floor + 1) * num) den then some (floor + 1) else none
  match below, above with
  | some a, some b =>
    let left := i.middle * den - a * num
    let right := b * num - i.middle * den
    if left < right then some a
    else if right < left then some b
    else if a % 2 = 0 then some a else some b
  | some a, none => some a
  | none, some b => some b
  | none, none => none

/-- The power of ten that a positive double is below: the least `k` with `x < 10 ^ k`, sought from
a lower bound on. -/
def pointOf (mantissa : Nat) (exponent : Int) : Nat → Int → Int
  | 0, k => k
  | fuel + 1, k =>
    let (num, den) := toQuarters 1 k exponent
    if 4 * mantissa * den < num then k else pointOf mantissa exponent fuel (k + 1)

/-- Tries grids of one digit, two digits and so on. -/
def searchGrids (i : Interval) (exponent point : Int) : Nat → Int → Digits
  | 0, count => ⟨[], point - count⟩
  | fuel + 1, count =>
    match nearestOnGrid? i exponent (point - count) with
    | some n =>
      let ds := digitsOf n
      let kept := (ds.reverse.dropWhile (· == 0)).reverse
      ⟨kept, point - count + ds.length⟩
    | none => searchGrids i exponent point fuel (count + 1)

/-- The shortest digits of `mantissa * 2 ^ exponent`. -/
def shortest (mantissa : Nat) (exponent : Int) : Digits :=
  if mantissa = 0 then ⟨[0], 1⟩
  else
    let start : Int := ((mantissa.log2 : Int) + exponent) * 3 / 10 - 2
    let point := pointOf mantissa exponent 400 start
    searchGrids (intervalOf mantissa exponent) exponent point 20 1

end ConnectClients.Decimal
