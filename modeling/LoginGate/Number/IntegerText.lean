import LoginGate.Text.Blank
import LoginGate.Text.Digit

/-!
# Number/IntegerText — integers as people write them

An integer may stand between blanks, carry a sign, group its digits with single underscores, and use
the decimal digits of any script. In base sixteen the mark `0x` may come first. A decimal numeral
has at most 4300 digits.
-/

namespace LoginGate.Number

open LoginGate.Text

/-- The blanks that may surround an integer: all but the four record dividers. -/
def isPadding (c : Char) : Bool := isBlank c && !(0x1c ≤ c.toNat && c.toNat ≤ 0x1f)

/-- The value of a digit in a base up to sixteen. -/
def digitIn? (base : Nat) (c : Char) : Option Nat :=
  match decimalDigit? c with
  | some d => some d
  | none =>
    if 10 < base then
      if 'a' ≤ c ∧ c ≤ 'f' then some (c.toNat - 87)
      else if 'A' ≤ c ∧ c ≤ 'F' then some (c.toNat - 55)
      else none
    else none

/-- The values of a run of digits in which single underscores may stand between two digits. -/
def digitRun? (base : Nat) : List Char → Option (List Nat)
  | [] => none
  | [c] => (digitIn? base c).map ([·])
  | c :: '_' :: rest => do
    let d ← digitIn? base c
    let ds ← digitRun? base rest
    some (d :: ds)
  | c :: rest => do
    let d ← digitIn? base c
    let ds ← digitRun? base rest
    some (d :: ds)

/-- The number that digits stand for, most significant first. -/
def ofDigits (base : Nat) (ds : List Nat) : Nat := ds.foldl (fun n d => base * n + d) 0

/-- The most digits a decimal numeral may have. -/
def maxDecimalDigits : Nat := 4300

/-- A numeral without sign: in base sixteen after an optional `0x`, which one underscore may follow.
-/
def magnitude? (base : Nat) (s : List Char) : Option Nat :=
  let digits :=
    if base = 16 then
      match s with
      | '0' :: 'x' :: '_' :: rest | '0' :: 'X' :: '_' :: rest => rest
      | '0' :: 'x' :: rest | '0' :: 'X' :: rest => rest
      | s => s
    else s
  match digitRun? base digits with
  | some ds => if base = 10 ∧ maxDecimalDigits < ds.length then none else some (ofDigits base ds)
  | none => none

/-- A character, or the ASCII digit of its value. -/
def plainDigit (c : Char) : Char := ((decimalDigit? c).map digitChar).getD c

/-- **The integer a text stands for.** -/
def integer? (base : Nat) (text : List Char) : Option Int :=
  match (trimWhile isPadding text).map plainDigit with
  | '+' :: rest => (magnitude? base rest).map Int.ofNat
  | '-' :: rest => (magnitude? base rest).map fun n => -(n : Int)
  | s => (magnitude? base s).map Int.ofNat

/-- The decimal digits of a natural number. -/
def decimal (n : Nat) : List Char := Nat.toDigits 10 n

/-- At least `width` decimal digits, zeros in front. -/
def paddedDecimal (width n : Nat) : List Char :=
  List.replicate (width - (decimal n).length) '0' ++ decimal n

end LoginGate.Number
