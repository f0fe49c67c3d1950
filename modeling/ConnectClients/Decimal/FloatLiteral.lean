import ConnectClients.Decimal.Binary64
import ConnectClients.Text.IntegerLiteral

/-!
# Floating point literals

A literal is read with blanks around it: a sign, digits of any script with at most one point among
them, and an exponent; or a sign and one of the words for infinity and for not a number. Letters are
small.
-/

namespace ConnectClients.Decimal

open Text

/-- The value of digits of any script. -/
def digitsValue (ds : List Char) : Nat :=
  ds.foldl (fun n c => 10 * n + (decimalValue? c).getD 0) 0

/-- An exponent to the end of a literal. -/
def readExponent? : List Char → Option Int
  | [] => some 0
  | 'e' :: rest =>
    let (negative, ds) := match rest with
      | '-' :: ds => (true, ds)
      | '+' :: ds => (false, ds)
      | ds => (false, ds)
    if ds.isEmpty || !ds.all isDecimal then none
    else
      let n : Int := digitsValue ds
      some (if negative then -n else n)
  | _ => none

def readUnsigned? (negative : Bool) (cs : List Char) : Option Binary64 :=
  if cs == "inf".toList || cs == "infinity".toList then some (.infinite negative)
  else if cs == "nan".toList then some .notANumber
  else
    let whole := cs.takeWhile isDecimal
    let rest := cs.dropWhile isDecimal
    let (fraction, rest) := match rest with
      | '.' :: rest => (rest.takeWhile isDecimal, rest.dropWhile isDecimal)
      | rest => ([], rest)
    if whole.isEmpty && fraction.isEmpty then none
    else (readExponent? rest).map fun power =>
      .ofDecimal negative (digitsValue (whole ++ fraction)) (power - fraction.length)

/-- The double nearest to the number a literal stands for. -/
def readFloat? (cs : List Char) : Option Binary64 :=
  match trimNumber cs with
  | '-' :: rest => readUnsigned? true rest
  | '+' :: rest => readUnsigned? false rest
  | rest => readUnsigned? false rest

end ConnectClients.Decimal
