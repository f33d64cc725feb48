import LoginGate.Number.Binary64

/-!
# Number/Shortest — the shortest decimal that reads back

A number is written with the fewest significant digits that still round to it, and of those with the
digits nearest to it. The text is positional while the decimal point falls between the fourth place
before the first digit and the sixteenth after it; otherwise one digit stands before the point and
an exponent of at least two digits follows.
-/

namespace LoginGate.Binary64

/-- `num / den` on the grid of multiples of `10 ^ power`: the multiple below, and what it leaves as
a quotient of a grid step. -/
def onGrid (num den : Nat) : (power : Int) → Nat × Nat × Nat
  | .ofNat p =>
    let step := den * Nat.pow 10 p
    (num / step, num % step, step)
  | .negSucc p =>
    let scaled := num * Nat.pow 10 (p + 1)
    (scaled / den, scaled % den, den)

/-- The place of the first digit: the least `k` with `num / den < 10 ^ k`, searched upwards. -/
def pointPlace (num den : Nat) : (fuel : Nat) → (k : Int) → Int
  | 0, k => k
  | fuel + 1, k => if (onGrid num den k).1 = 0 then k else pointPlace num den fuel (k + 1)

/-- The decimal of a grid that reads back as `x`: the nearer neighbour first. -/
def readsBackOn (x : Binary64) (num den : Nat) (power : Int) : Option Nat :=
  let (low, rest, step) := onGrid num den power
  let candidates := if 2 * rest ≤ step then [low, low + 1] else [low + 1, low]
  candidates.find? fun d => d ≠ 0 ∧ ofDecimal false d power = x

/-- The first of the grids with `n, n + 1, …` digits that has a decimal reading back. -/
def shortestFrom (x : Binary64) (num den : Nat) (place : Int) : (fuel n : Nat) → Nat × Int
  | 0, n => ((onGrid num den (place - n)).1, place - n)
  | fuel + 1, n =>
    match readsBackOn x num den (place - n) with
    | some d => (d, place - n)
    | none => shortestFrom x num den place fuel (n + 1)

/-- Drop trailing zeros of a decimal numeral. -/
def dropZeros (ds : List Char) : List Char := (ds.reverse.dropWhile (· == '0')).reverse

/-- The significant digits of a positive finite number and the place of its decimal point. -/
def shortest (m : Nat) (e : Int) : List Char × Int :=
  let (num, den) := magnitude m e
  let place := pointPlace num den 640 (-324)
  let (d, power) := shortestFrom (.finite false m e) num den place 17 1
  let ds := Nat.toDigits 10 d
  (dropZeros ds, ds.length + power)

/-- Digits and point place as text: positional near one, with an exponent elsewhere. -/
def layout (ds : List Char) (point : Int) : List Char :=
  if -4 < point ∧ point ≤ 16 then
    match point with
    | .ofNat 0 => ['0', '.'] ++ ds
    | .negSucc k => ['0', '.'] ++ List.replicate (k + 1) '0' ++ ds
    | .ofNat p =>
      if ds.length ≤ p then ds ++ List.replicate (p - ds.length) '0' ++ ['.', '0']
      else ds.take p ++ ['.'] ++ ds.drop p
  else
    let e := point - 1
    let fraction := ds.drop 1
    let size := Nat.toDigits 10 e.natAbs
    ds.take 1 ++ (if fraction.isEmpty then [] else '.' :: fraction) ++
      ['e', if e < 0 then '-' else '+'] ++ List.replicate (2 - size.length) '0' ++ size

/-- **The text of a number.** -/
def toText : Binary64 → String
  | .nan => "nan"
  | .infinite negative => if negative then "-inf" else "inf"
  | .finite negative m e =>
    let body := if m = 0 then ['0', '.', '0'] else
      let (ds, point) := shortest m e
      layout ds point
    String.ofList (if negative then '-' :: body else body)

end LoginGate.Binary64
