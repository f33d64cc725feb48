import LoginGate.Text.Case
import LoginGate.Text.Blank
import LoginGate.Text.Split

/-!
# Http/Parameters — what follows the first part of a field

Behind the first semicolon stand parameters `name=value` with semicolons between. A name is a word
of letters, digits and some marks, read without regard to letter case; a value is such a word or is
quoted. What is no parameter is passed over.
-/

namespace LoginGate.Http.Parameters

/-- A character of a word. -/
def isWordChar (c : Char) : Bool := c.isAlphanum || "_!#$%&'*+-.^`|~".toList.contains c

/-- The inside of a quoted value and what follows it, the opening quote already read. -/
def quoted? : List Char → Option (List Char × List Char)
  | [] => none
  | '"' :: rest => some ([], rest)
  | '\\' :: '\\' :: rest => (quoted? rest).map fun p => ('\\' :: p.1, p.2)
  | '\\' :: '"' :: rest => (quoted? rest).map fun p => ('"' :: p.1, p.2)
  | c :: rest => (quoted? rest).map fun p => (c :: p.1, p.2)

/-- The parameter at the start of a text, if there is one, and a rest that begins inside it or
behind it. -/
def first (s : List Char) : Option (List Char × List Char) × List Char :=
  let name := s.takeWhile isWordChar
  match name, s.drop name.length with
  | _ :: _, '=' :: rest =>
    let name := name.map Char.toLower
    match rest.takeWhile isWordChar, rest with
    | [], '"' :: inside =>
      match quoted? inside with
      | some (value, after) => (some (name, value), after)
      | none => (none, rest)
    | [], rest => (none, rest)
    | value, rest => (some (name, value), rest)
  | _, _ => (none, s)

/-- The parameters of a text; each section takes at least one character. -/
def sections : (fuel : Nat) → List Char → List (List Char × List Char)
  | 0, _ => []
  | fuel + 1, s =>
    let (found, rest) := first s
    found.toList ++
      match Text.splitFirst? ';' rest with
      | some (_, next) => sections fuel (next.dropWhile Text.isBlank)
      | none => []

/-- **The parameters of a field.** -/
def ofText (s : List Char) : List (List Char × List Char) :=
  match Text.splitFirst? ';' s with
  | some (value, rest) =>
    if (Text.trim value).isEmpty then [] else sections (rest.length + 1) (Text.trim rest)
  | none => []

end LoginGate.Http.Parameters
