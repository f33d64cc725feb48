import LoginGate.Field
import LoginGate.Json.Reader
import LoginGate.Number.IntegerText

/-!
# Settings/Numeral — numbers in settings

A setting that is a number may be given as a number or as text. An integer as text has a sign,
digits in groups with single underscores between, and perhaps a point and zeros; the digits are
ASCII. Zeros at its front count for nothing, and among them underscores may stand at will. A number
with a fraction as text is a decimal with or without an exponent, or the name of an infinity.
-/

namespace LoginGate.Settings

/-- The white space around a number. -/
def isSpace (c : Char) : Bool := Text.isBlank c && !(0x1c ≤ c.toNat && c.toNat ≤ 0x1f)

/-- What is left of a numeral after its leading zeros, the last of them already read, and the
underscores among them. A lone zero stays, and so does the one before a point. -/
def afterZeros? (last : Char) : List Char → Option (List Char)
  | [] => some [last]
  | c :: rest =>
    if c = '0' ∨ c = '_' then afterZeros? c rest
    else if c = '-' ∨ c.isDigit then some (c :: rest)
    else if c = '.' then some (last :: c :: rest)
    else none

/-- A numeral without its leading zeros. -/
def withoutZeros? : List Char → Option (List Char)
  | [] => none
  | c :: rest =>
    if c = '0' then afterZeros? c rest
    else if c = '-' ∨ c.isDigit then some (c :: rest)
    else none

/-- A text without a point and zeros at its end. -/
def withoutPlaces (s : List Char) : List Char :=
  match s.dropWhile (· ≠ '.') with
  | _ :: '0' :: zeros => if zeros.all (· == '0') then s.takeWhile (· ≠ '.') else s
  | _ => s

/-- Whether two underscores stand side by side. -/
def hasDoubleUnderscore : List Char → Bool
  | '_' :: '_' :: _ => true
  | _ :: rest => hasDoubleUnderscore rest
  | [] => false

/-- A text without its underscores, if they are single and inside it. -/
def withoutUnderscores? (s : List Char) : Option (List Char) :=
  if s.head? = some '_' ∨ s.getLast? = some '_' ∨ hasDoubleUnderscore s then none
  else some (s.filter (· ≠ '_'))

/-- The sign and the digits of an integer text: of its signs only a minus sign is kept, and it may
stand behind leading zeros. -/
def bareInteger? (s : List Char) : Option (Bool × List Char) := do
  let unsigned ← match Text.trimWhile isSpace s with
    | '+' :: '-' :: _ => none
    | '+' :: rest => some rest
    | s => some s
  let digits ← withoutUnderscores? (withoutPlaces (← withoutZeros? unsigned))
  let (negative, digits) := match digits with
    | '-' :: rest => (true, rest)
    | digits => (false, digits)
  if !digits.isEmpty && digits.all Char.isDigit then some (negative, digits) else none

/-- The most digits of an integer, leading zeros aside. -/
def maxDigits : Nat := 4300

/-- An integer from text. -/
def integerOfText (s : List Char) : Checked Int :=
  match bareInteger? s with
  | none => .fail "int_parsing"
  | some (negative, digits) =>
    if maxDigits < digits.length then .fail "int_parsing_size"
    else .ok (if negative then -(Json.numeral digits : Int) else Json.numeral digits)

/-- **An integer setting.** -/
def integerOf : Json → Checked Int
  | .int n => .ok n
  | .bool b => .ok (if b then 1 else 0)
  | .text s => integerOfText s.toList
  | .brokenText => .fail "string_unicode"
  | .real x =>
    match x.truncate? with
    | none => .fail "finite_number"
    | some n =>
      if x.toInt? = none then .fail "int_from_float"
      else if -0x8000000000000000 ≤ n ∧ n ≤ 0x8000000000000000 then
        .ok (min n 0x7fffffffffffffff)
      else .fail "int_parsing_size"
  | _ => .fail "int_type"

/-- A decimal, with or without a point and an exponent, of at least one digit. -/
def decimal? (negative : Bool) (s : List Char) : Option Binary64 :=
  let whole := s.takeWhile Char.isDigit
  let rest := s.drop whole.length
  let (places, rest) :=
    match rest with
    | '.' :: rest => (rest.takeWhile Char.isDigit, rest.dropWhile Char.isDigit)
    | rest => ([], rest)
  if whole.isEmpty && places.isEmpty then none
  else
    let digits := Json.numeral (whole ++ places)
    match rest with
    | [] => some (.ofDecimal negative digits (-(places.length : Int)))
    | c :: rest =>
      if c = 'e' ∨ c = 'E' then
        let (down, ds) := match rest with
          | '+' :: ds => (false, ds)
          | '-' :: ds => (true, ds)
          | ds => (false, ds)
        if !ds.isEmpty && ds.all Char.isDigit then
          let power : Int := if down then -(Json.numeral ds : Int) else Json.numeral ds
          some (.ofDecimal negative digits (power - places.length))
        else none
      else none

/-- A number without underscores from text. -/
def plainReal? (s : List Char) : Option Binary64 :=
  let (negative, body) := match s with
    | '+' :: rest => (false, rest)
    | '-' :: rest => (true, rest)
    | rest => (false, rest)
  let name := String.ofList (body.map Char.toLower)
  if name = "inf" ∨ name = "infinity" then some (.infinite negative)
  else if name = "nan" then some .nan
  else decimal? negative body

/-- A number from text: white space around it or underscores inside, but not both. -/
def realOfText (s : List Char) : Checked Binary64 :=
  let grouped := (withoutUnderscores? s).bind plainReal?
  match (plainReal? (Text.trimWhile isSpace s)).or grouped with
  | some x => .ok x
  | none => .fail "float_parsing"

/-- **A setting with a fraction.** An integer out of range is none. -/
def realOf : Json → Checked Binary64
  | .int n => if (Binary64.ofInt n).toFraction?.isSome then .ok (.ofInt n) else .fail "float_type"
  | .bool b => .ok (.ofInt (if b then 1 else 0))
  | .real x => .ok x
  | .text s => realOfText s.toList
  | .brokenText => .fail "string_unicode"
  | _ => .fail "float_type"

/-- An integer setting with a least value. -/
def integerFrom (least : Int) (value : Json) : Checked Int := do
  let n ← integerOf value
  if n < least then .fail "greater_than_equal" else return n

/-- A setting with a fraction and a least value. -/
def realFrom (least : Binary64) (value : Json) : Checked Binary64 := do
  let x ← realOf value
  if least.le x then return x else .fail "greater_than_equal"

end LoginGate.Settings
