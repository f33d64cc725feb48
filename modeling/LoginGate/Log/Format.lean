import LoginGate.Log.Item
import LoginGate.Number.Places

/-!
# Log/Format — items brought to a format

A format names the padding and its side, what stands before a number, the width, the groups of its
digits, the precision, and a letter for the way in which it is written. Only texts and numbers take
a format that asks for anything. A text is cut to its precision; a number has no precision unless it
is written as one with a fraction.
-/

namespace LoginGate.Log.Format

/-- Why an item cannot be brought to a format. -/
inductive Fault where
  /-- The format cannot be read, or asks for what does not go together. -/
  | malformed
  /-- A number that stands for no character. -/
  | noCharacter
  /-- The item takes no format. -/
  | notTaken
  deriving DecidableEq, Repr

/-! ## Padding -/

/-- The largest size and the largest index. -/
def maxSize : Nat := 0x7fffffffffffffff

/-- The number that a run of digits stands for; `none` if it is no such run. -/
def numeral? (s : List Char) : Except Fault (Option Nat) :=
  match s.mapM Text.decimalDigit? with
  | some (d :: ds) =>
    let n := Number.ofDigits 10 (d :: ds)
    if n ≤ maxSize then .ok (some n) else .error .malformed
  | _ => .ok none

/-- On which side a value stands; a sign may stand before the padding. -/
inductive Align where
  | left
  | right
  | center
  | afterSign
  deriving DecidableEq

/-- The side that a mark asks for. -/
def align? : Char → Option Align
  | '<' => some .left
  | '>' => some .right
  | '^' => some .center
  | '=' => some .afterSign
  | _ => none

/-- The padding and the side at the start of a format, and what follows them. -/
def padding (format : List Char) : Option Char × Option Align × List Char :=
  match format with
  | fill :: mark :: rest =>
    match align? mark with
    | some side => (some fill, some side, rest)
    | none =>
      match align? fill with
      | some side => (none, some side, mark :: rest)
      | none => (none, none, format)
  | [mark] =>
    match align? mark with
    | some side => (none, some side, [])
    | none => (none, none, format)
  | [] => (none, none, [])

/-- A sign and a value brought to a width. -/
def padded (fill : Char) (side : Align) (width : Nat) (sign value : List Char) : List Char :=
  let gap := width - (sign.length + value.length)
  let pad (n : Nat) := List.replicate n fill
  match side with
  | .left => sign ++ value ++ pad gap
  | .right => pad gap ++ sign ++ value
  | .center => pad (gap / 2) ++ sign ++ value ++ pad (gap - gap / 2)
  | .afterSign => sign ++ pad gap ++ value

/-- A run of digits at the start of a format, as a number, and what follows it. -/
def size? (s : List Char) : Except Fault (Option Nat × List Char) := do
  let digits := s.takeWhile fun c => (Text.decimalDigit? c).isSome
  return (← numeral? digits, s.drop digits.length)

/-- The precision at the start of what is left of a format: digits behind a point. -/
def precision? (s : List Char) : Except Fault (Option Nat × List Char) :=
  match s with
  | '.' :: rest => do
    let (n, rest) ← size? rest
    if n.isNone then .error .malformed else return (n, rest)
  | rest => .ok (none, rest)

/-! ## Texts -/

/-- **A text cut to a precision and padded to a width**, as a format asks. -/
def text (value format : List Char) : Except Fault (List Char) := do
  let (fill, side, rest) := padding format
  let (fill, rest) :=
    match fill, rest with
    | none, '0' :: rest => ('0', rest)
    | none, rest => (' ', rest)
    | some c, rest => (c, rest)
  let (width, rest) ← size? rest
  let (precision, rest) ← precision? rest
  if rest ≠ [] ∧ rest ≠ ['s'] then .error .malformed
  let value := match precision with
    | some n => value.take n
    | none => value
  match side.getD .left with
  | .afterSign => .error .malformed
  | side => return padded fill side (width.getD 0) [] value

/-! ## Numbers -/

/-- What a format asks for a number, apart from its padding. -/
structure Style where
  /-- What stands before the number, if anything is asked for. -/
  sign : Option Char
  /-- Whether zero may have no minus sign. -/
  plainZero : Bool
  /-- Whether the base is marked, or the point always shown. -/
  marked : Bool
  /-- What stands between groups of digits. -/
  separator : Option Char
  precision : Option Nat
  letter : Option Char

/-- Digits in groups of `group` from the right, with zeros in front up to a width. The digits come
and go in reverse. -/
def groupedFrom (separator : Char) (group : Nat) :
    (fuel width : Nat) → List Char → List Char
  | 0, _, ds => ds
  | fuel + 1, width, ds =>
    let count := min group (max (max ds.length width) 1)
    let taken := ds.take count ++ List.replicate (count - ds.length) '0'
    let rest := ds.drop count
    if rest.isEmpty ∧ width ≤ count then taken
    else taken ++ separator :: groupedFrom separator group fuel (width - count - 1) rest

/-- Digits in groups, if there is something to stand between them. -/
def grouped (separator : Option Char) (group width : Nat) (digits : List Char) : List Char :=
  match separator with
  | none => digits
  | some c => (groupedFrom c group (digits.length + width + 1) width digits.reverse).reverse

/-- A number as it is written: the mark of its base, the digits in front, what follows them, and the
digits in a group. -/
structure Numeral where
  mark : List Char
  digits : List Char
  tail : List Char
  group : Nat

/-- A whole number in a base. -/
def inBase (style : Style) (base : Nat) (mark : List Char) (group : Nat) (n : Nat) :
    Except Fault Numeral :=
  if style.precision.isSome || style.plainZero then .error .malformed
  else .ok ⟨if style.marked then mark else [], Nat.toDigits base n, [], group⟩

/-- A whole number as a character. -/
def character (style : Style) (n : Nat) : Except Fault Numeral :=
  if style.precision.isSome || style.plainZero || style.sign.isSome || style.marked then
    .error .malformed
  else if 0x110000 ≤ n then .error .noCharacter
  else .ok ⟨[], [], [Char.ofNat n], 3⟩

/-- A number with a point or an exponent in it. -/
def real (style : Style) (letter : Char) (n : Nat) : Except Fault Numeral :=
  let places := style.precision.getD 6
  if 0x7fffffff < places then .error .malformed
  else
    let written :=
      match letter with
      | 'e' | 'E' => Binary64.scientificText style.marked n 1 places
      | 'g' | 'G' => Binary64.generalText style.marked n 1 places
      | '%' => Binary64.fixedText style.marked (100 * n) 1 places ++ ['%']
      | _ => Binary64.fixedText style.marked n 1 places
    let written := if letter.isUpper then written.map Char.toUpper else written
    let digits := written.takeWhile Char.isDigit
    .ok ⟨[], digits, written.drop digits.length, 3⟩

/-- A number as the letter of a format asks. -/
def numeral (style : Style) (n : Nat) : Except Fault Numeral :=
  match style.letter with
  | none | some 'd' => inBase style 10 [] 3 n
  | some letter =>
    match letter with
    | 'n' => if style.separator.isSome then .error .malformed else inBase style 10 [] 3 n
    | 'c' => if style.separator.isSome then .error .malformed else character style n
    | 'b' => inOther 2 "0b" n
    | 'o' => inOther 8 "0o" n
    | 'x' => inOther 16 "0x" n
    | 'X' => do
      let x ← inOther 16 "0x" n
      return { x with mark := x.mark.map Char.toUpper, digits := x.digits.map Char.toUpper }
    | 'e' | 'E' | 'f' | 'F' | 'g' | 'G' | '%' => real style letter n
    | _ => .error .malformed
where
  /-- A base other than ten takes no commas, and four digits a group. -/
  inOther (base : Nat) (mark : String) (n : Nat) : Except Fault Numeral :=
    if style.separator = some ',' then .error .malformed else inBase style base mark.toList 4 n

/-- One of two marks at the start of what is left of a format. -/
def separator? (s : List Char) : Except Fault (Option Char × List Char) :=
  let isMark (c : Char) : Bool := c == ',' || c == '_'
  match s with
  | c :: rest =>
    if !isMark c then .ok (none, s)
    else if (rest.head?.map isMark).getD false then .error .malformed
    else .ok (some c, rest)
  | [] => .ok (none, [])

/-- A character at the start of what is left of a format, if it is there, and the rest. -/
def flag (c : Char) (s : List Char) : Bool × List Char :=
  if s.head? = some c then (true, s.drop 1) else (false, s)

/-- **A number written as a format asks**, and padded to a width. -/
def number (n : Nat) (format : List Char) : Except Fault (List Char) := do
  let (fill, side, rest) := padding format
  let (sign, rest) :=
    match rest with
    | '+' :: rest => (some '+', rest)
    | ' ' :: rest => (some ' ', rest)
    | '-' :: rest => (some '-', rest)
    | rest => (none, rest)
  let (plainZero, rest) := flag 'z' rest
  let (marked, rest) := flag '#' rest
  let (zeros, rest) := if fill.isNone then flag '0' rest else (false, rest)
  let fill := if zeros then '0' else fill.getD ' '
  let side := side.getD (if zeros then .afterSign else .right)
  let (width, rest) ← size? rest
  let (separator, rest) ← separator? rest
  let (precision, rest) ← precision? rest
  if 1 < rest.length then .error .malformed
  let x ← numeral { sign, plainZero, marked, separator, precision, letter := rest.head? } n
  let before := (sign.filter (· ≠ '-')).toList ++ x.mark
  let room := width.getD 0 - (before.length + x.tail.length)
  let filled := if fill = '0' ∧ side = .afterSign then room else 0
  let digits := grouped separator x.group filled x.digits
  return padded fill side (width.getD 0) before (digits ++ x.tail)

/-- **An item as a format asks.** -/
def item (value : Item) (format : List Char) : Except Fault (List Char) :=
  if format.isEmpty then .ok value.shown
  else
    match value with
    | .text s => text s format
    | .number n => number n format
    | _ => .error .notTaken

end LoginGate.Log.Format
