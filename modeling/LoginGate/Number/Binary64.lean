/-!
# Number/Binary64 — the numbers of the 64-bit binary format

Clock readings, time-outs and the fractions in JSON are numbers of this format, so what they round
to is decided here, exactly: a finite number is `± mantissa · 2 ^ exponent`, and `ofRatio` takes a
quotient of natural numbers to the nearest such number, ties going to the even mantissa. Nothing in
this module computes with machine floats.
-/

namespace LoginGate

/-- A number of the format. Rounding leaves mantissas below `2 ^ 53`, or equal to it after a carry.
-/
inductive Binary64 where
  | finite (negative : Bool) (mantissa : Nat) (exponent : Int)
  | infinite (negative : Bool)
  | nan
  deriving DecidableEq, Repr

namespace Binary64

/-- The quotient to the nearest integer, an exact half to the even neighbour. -/
def divNearest (num den : Nat) : Nat :=
  let q := num / den
  let twice := 2 * (num % den)
  if twice < den then q
  else if den < twice then q + 1
  else if q % 2 = 0 then q else q + 1

/-- `num / (den · 2 ^ scale)` as a quotient of natural numbers. -/
def scaleDown (num den : Nat) : (scale : Int) → Nat × Nat
  | .ofNat s => (num, den <<< s)
  | .negSucc s => (num <<< (s + 1), den)

/-- **The exponent a quotient is written with**: 53 bits remain, unless the format ends before that.
-/
def exponentOf (num den : Nat) : Int :=
  let guess : Int := (num.log2 : Int) - den.log2 - 52
  let top := scaleDown num den guess
  let e := if top.1 / top.2 < 1 <<< 52 then guess - 1 else guess
  max e (-1074)

/-- **The number nearest to `num / den`**, infinite from half a unit past the largest one. -/
def ofRatio (negative : Bool) (num den : Nat) : Binary64 :=
  if num = 0 then .finite negative 0 0
  else
    let e := exponentOf num den
    let parts := scaleDown num den e
    let m := divNearest parts.1 parts.2
    if 971 < e ∨ (e = 971 ∧ 1 <<< 53 ≤ m) then .infinite negative
    else if m = 1 <<< 53 then .finite negative (1 <<< 52) (e + 1)
    else .finite negative m e

/-- The number nearest to `digits · 10 ^ power`. Powers that settle the outcome by themselves are
answered without raising ten to them. -/
def ofDecimal (negative : Bool) (digits : Nat) (power : Int) : Binary64 :=
  if digits = 0 then .finite negative 0 0
  else if 400 < power then .infinite negative
  else if (digits.log2 : Int) + 3 * power < -1200 then .finite negative 0 0
  else
    match power with
    | .ofNat p => ofRatio negative (digits * Nat.pow 10 p) 1
    | .negSucc p => ofRatio negative digits (Nat.pow 10 (p + 1))

/-- The number nearest to an integer. -/
def ofInt (n : Int) : Binary64 := ofRatio (n < 0) n.natAbs 1

/-- The number nearest to `n / d`. -/
def ofFraction (n : Int) (d : Nat) : Binary64 := ofRatio (n < 0) n.natAbs d

/-- The greatest integer not above a finite number. -/
def floor? : Binary64 → Option Int
  | .finite negative m e =>
    let signed : Int := if negative then -m else m
    match e with
    | .ofNat k => some (signed <<< k)
    | .negSucc k => some (signed >>> (k + 1))
  | _ => none

/-- A finite number without its fraction. -/
def truncate? : Binary64 → Option Int
  | .finite negative m e =>
    let whole : Nat :=
      match e with
      | .ofNat k => m <<< k
      | .negSucc k => m >>> (k + 1)
    some (if negative then -whole else whole)
  | _ => none

/-- The integer that a number is equal to. -/
def toInt? (x : Binary64) : Option Int :=
  match x.floor?, x.truncate? with
  | some below, some whole =>
    if below = whole ∧ isWhole x then some whole else none
  | _, _ => none
where
  /-- Whether a finite number has no fraction. -/
  isWhole : Binary64 → Bool
    | .finite _ m (.negSucc k) => m % (1 <<< (k + 1)) = 0
    | _ => true

/-- A finite number without its sign, as a quotient with a power of two below. -/
def magnitude (m : Nat) : (e : Int) → Nat × Nat
  | .ofNat k => (m <<< k, 1)
  | .negSucc k => (m, 1 <<< (k + 1))

/-- A finite number as such a quotient. -/
def toFraction? : Binary64 → Option (Int × Nat)
  | .finite negative m e =>
    let (num, den) := magnitude m e
    some (if negative then -num else num, den)
  | _ => none

/-- **The order of the extended line**; a `nan` is below, above and equal to nothing. -/
def le (x y : Binary64) : Bool :=
  match x, y with
  | .nan, _ | _, .nan => false
  | .infinite true, _ | _, .infinite false => true
  | .infinite false, _ | _, .infinite true => false
  | x, y =>
    match x.toFraction?, y.toFraction? with
    | some (a, b), some (c, d) => a * d ≤ c * b
    | _, _ => false

/-- Whether a number counts as false: only the two zeros do. -/
def isZero : Binary64 → Bool
  | .finite _ m _ => m = 0
  | _ => false

end Binary64
end LoginGate
