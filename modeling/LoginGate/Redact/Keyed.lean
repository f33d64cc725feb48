import LoginGate.Redact.Scan
import LoginGate.Text.Blank

/-!
# Redact/Keyed — secrets named by a key word

Most secrets in a message stand behind a key word and a separator, as in `password: "x"`. A `Keyed`
rule gives the words of the key, the separators, the characters of a value and its least length. The
key, the separator, the blanks around it and the quotes stay; the value goes.
-/

namespace LoginGate.Redact

/-- What stands in place of a secret. -/
def mask : List Char := "***REDACTED***".toList

/-- The other letters that count as a lower-case ASCII letter when case does not matter. -/
def foreignForms (c : Char) : List Char :=
  match c with
  | 's' => ['ſ']
  | 'k' => ['\u212a']
  | 'i' => ['\u0130', 'ı']
  | _ => []

/-- Whether a character is a lower-case ASCII letter in any letter case. -/
def sameLetter (letter c : Char) : Bool := c.toLower = letter || (foreignForms letter).contains c

/-- What follows a word at the start of a text. -/
def afterWord? (foldCase : Bool) : (word : List Char) → List Char → Option (List Char)
  | [], s => some s
  | _ :: _, [] => none
  | w :: word, c :: s =>
    if (if foldCase then sameLetter w c else w = c) then afterWord? foldCase word s else none

/-- A hyphen or underscore between the words of a key. -/
def isJoint (c : Char) : Bool := c = '_' || c = '-'

/-- A single or double quote. -/
def isQuote (c : Char) : Bool := c = '\'' || c = '"'

/-- Drop a first character of a class, if there is one. -/
def dropOne (p : Char → Bool) : List Char → List Char
  | c :: rest => if p c then rest else c :: rest
  | [] => []

/-- What follows the words of a key; a joint may stand between two words. -/
def afterKey? (foldCase : Bool) : (words : List (List Char)) → List Char → Option (List Char)
  | [], s => some s
  | [word], s => afterWord? foldCase word s
  | word :: words, s =>
    (afterWord? foldCase word s).bind fun rest => afterKey? foldCase words (dropOne isJoint rest)

/-- A secret behind a key. -/
structure Keyed where
  words : List String
  foldCase : Bool
  separator : Char → Bool
  value : Char → Bool
  least : Nat

namespace Keyed

/-- A value at the start of a text, perhaps behind a quote: what precedes it, and what follows. -/
def valueAt? (k : Keyed) (s : List Char) : Option (List Char × List Char) :=
  let body := dropOne isQuote s
  let v := body.takeWhile k.value
  if k.least ≤ v.length then some (s.take (s.length - body.length), body.drop v.length) else none

/-- **A value behind some blanks**: as many of the blanks as possible are left out of it. -/
def valueAfterBlanks? (k : Keyed) : (blanks rest : List Char) → Option (List Char × List Char)
  | [], rest => k.valueAt? rest
  | c :: blanks, rest =>
    match k.valueAfterBlanks? blanks rest with
    | some (kept, after) => some (c :: kept, after)
    | none => k.valueAt? (c :: blanks ++ rest)

/-- The rule: key, blanks, separator, blanks, perhaps a quote, the value, perhaps a quote. -/
def rule (k : Keyed) : Rule := fun _ s =>
  match afterKey? k.foldCase (k.words.map String.toList) s with
  | none => none
  | some rest =>
    match rest.dropWhile Text.isBlank with
    | [] => none
    | c :: rest =>
      if k.separator c then
        match k.valueAfterBlanks? (rest.takeWhile Text.isBlank) (rest.dropWhile Text.isBlank) with
        | none => none
        | some (kept, after) =>
          let after' := dropOne isQuote after
          some
            { size := s.length - after'.length
              replacement := s.take (s.length - rest.length) ++ kept ++ mask ++
                after.take (after.length - after'.length) }
      else none

end Keyed
end LoginGate.Redact
