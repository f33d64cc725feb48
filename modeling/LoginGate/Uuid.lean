import LoginGate.Bytes.Hex
import LoginGate.Number.IntegerText
import LoginGate.Text.Remove
import LoginGate.Text.Split

/-!
# Uuid — identifiers of 128 bits and their texts

The canonical text has 32 lower-case digits in groups of 8, 4, 4, 4 and 12. There are two readers.
The *strict* one (`ofFormatted?`) takes four layouts and nothing else. The *lenient* one
(`ofLoose?`) takes out marks wherever they stand and reads what is left as one number in base
sixteen.
-/

namespace LoginGate

/-- An identifier. -/
structure Uuid where
  value : Nat
  isLt : value < 1 <<< 128
  deriving DecidableEq

namespace Uuid

theorem ext_iff_value {u v : Uuid} : u = v ↔ u.value = v.value := by
  cases u; cases v; simp

/-- The identifier of a number, if it has at most 128 bits. -/
def ofNat? (n : Nat) : Option Uuid := if h : n < 1 <<< 128 then some ⟨n, h⟩ else none

/-- The identifier of a number without its higher bits. -/
def ofNat (n : Nat) : Uuid := ⟨n % (1 <<< 128), Nat.mod_lt _ (by decide)⟩

/-- The 32 digits. -/
def digits (u : Uuid) : List Char := Bytes.hexNumeral 32 u.value

/-- The groups of 8, 4, 4, 4 and 12 of a sequence of digits, with hyphens between. -/
def grouped (ds : List Char) : List Char :=
  ds.take 8 ++ '-' :: (ds.drop 8).take 4 ++ '-' :: (ds.drop 12).take 4 ++
    '-' :: (ds.drop 16).take 4 ++ '-' :: (ds.drop 20)

/-- **The canonical text.** -/
def text (u : Uuid) : String := String.ofList (grouped u.digits)

instance : ToString Uuid := ⟨text⟩

/-- The digits of a text in five groups. -/
def ungrouped? (s : List Char) : Option (List Char) :=
  match Text.splitAll '-' s with
  | [a, b, c, d, e] =>
    if a.length = 8 ∧ b.length = 4 ∧ c.length = 4 ∧ d.length = 4 ∧ e.length = 12 then
      some (a ++ b ++ c ++ d ++ e)
    else none
  | _ => none

/-- The identifier of 32 digits. -/
def ofDigits? (ds : List Char) : Option Uuid :=
  if ds.length = 32 then
    match ds.mapM Bytes.hexValue? with
    | some values => ofNat? (Number.ofDigits 16 values)
    | none => none
  else none

/-- **The strict reader**: 32 digits, or five groups, which may stand in braces or after
`urn:uuid:`. -/
def ofFormatted? (s : List Char) : Option Uuid :=
  if s.length = 32 then ofDigits? s
  else if s.length = 36 then (ungrouped? s).bind ofDigits?
  else if s.length = 38 ∧ s.head? = some '\x7b' ∧ s.getLast? = some '\x7d' then
    (ungrouped? (s.drop 1).dropLast).bind ofDigits?
  else if s.length = 45 ∧ s.take 9 = "urn:uuid:".toList then
    (ungrouped? (s.drop 9)).bind ofDigits?
  else none

/-- What is left of a text without its marks: first every `urn:`, then every `uuid:`, then the
braces at both ends, then every hyphen. -/
def unmarked (s : List Char) : List Char :=
  let bare := Text.removeAll "uuid:".toList (Text.removeAll "urn:".toList s)
  (Text.trimWhile (fun c => c == '\x7b' || c == '\x7d') bare).filter (· != '-')

/-- **The lenient reader**: 32 characters without marks that read as a number in base sixteen. -/
def ofLoose? (s : List Char) : Option Uuid :=
  let bare := unmarked s
  if bare.length = 32 then
    match Number.integer? 16 bare with
    | some (.ofNat n) => ofNat? n
    | _ => none
  else none

end Uuid
end LoginGate
