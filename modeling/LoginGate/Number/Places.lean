import LoginGate.Number.Shortest
import LoginGate.Number.IntegerText

/-!
# Number/Places — binary64 numbers with a given number of places

The exact value is rounded to a number of places behind the point, or to a number of significant
digits; an exact half goes to the even digit.
-/

namespace LoginGate.Binary64

open LoginGate.Number

/-- A quotient with `places` digits behind the point; with no places the point stays if asked for.
-/
def fixedText (point : Bool) (num den places : Nat) : List Char :=
  let digits := paddedDecimal (places + 1) (divNearest (num * Nat.pow 10 places) den)
  let whole := digits.take (digits.length - places)
  let fraction := digits.drop (digits.length - places)
  if places = 0 ∧ !point then whole else whole ++ '.' :: fraction

/-- A quotient rounded to `count` significant digits: the digits, and the exponent of the first. -/
def significant (num den count : Nat) : List Char × Int :=
  if num = 0 then (List.replicate count '0', 0)
  else
    let place := pointPlace num den 640 (-324)
    let d :=
      match place - count with
      | .ofNat p => divNearest num (den * Nat.pow 10 p)
      | .negSucc p => divNearest (num * Nat.pow 10 (p + 1)) den
    let digits := decimal d
    if count < digits.length then (digits.take count, place) else (digits, place - 1)

/-- The exponent part: a sign and at least two digits. -/
def exponentText (e : Int) : List Char :=
  'e' :: (if e < 0 then '-' else '+') :: paddedDecimal 2 e.natAbs

/-- A quotient with one digit before the point and `places` behind it, and an exponent. -/
def scientificText (point : Bool) (num den places : Nat) : List Char :=
  let (digits, e) := significant num den (places + 1)
  let fraction := digits.drop 1
  digits.take 1 ++ (if fraction.isEmpty && !point then [] else '.' :: fraction) ++ exponentText e

/-- Digits without the zeros at their end. -/
def withoutZeros (keep : Bool) (ds : List Char) : List Char := if keep then ds else dropZeros ds

/-- A quotient with `count` significant digits, positional unless the exponent is below -4 or not
below the count; zeros at the end stay if asked for. -/
def generalText (keep : Bool) (num den count : Nat) : List Char :=
  let count := max count 1
  let (digits, e) := significant num den count
  if -4 ≤ e ∧ e < count then
    let places := ((count : Int) - 1 - e).toNat
    let padded := List.replicate (places + 1 - digits.length) '0' ++ digits
    let whole := padded.take (padded.length - places)
    let fraction := withoutZeros keep (padded.drop (padded.length - places))
    whole ++ (if fraction.isEmpty && !keep then [] else '.' :: fraction)
  else
    let fraction := withoutZeros keep (digits.drop 1)
    digits.take 1 ++ (if fraction.isEmpty && !keep then [] else '.' :: fraction) ++ exponentText e

end LoginGate.Binary64
