import LoginGate.Failure
import LoginGate.Http.Date
import LoginGate.Http.Percent
import LoginGate.Text.Blank
import LoginGate.Text.Case

/-!
# Http/Cookie — the cookies of a request, and a cookie set by a response

A request's cookies are pairs `name=value` with semicolons between. A value may be quoted, and then
backslashes escape characters inside it. A pair with a blank or a quote where none belongs is passed
over. Of equal names the first one counts.
-/

namespace LoginGate.Http

namespace Cookies

/-- The blanks that count. -/
def isSpace (c : Char) : Bool := c = ' ' || c = '\t'

/-- A text without blanks at either end. -/
def trim (s : List Char) : List Char := Text.trimWhile isSpace s

/-- The inside of a quoted text and what follows it, the opening quote already read. -/
def quoted? : List Char → Option (List Char × List Char)
  | [] => none
  | '"' :: rest => some ([], rest)
  | '\\' :: c :: rest => (quoted? rest).map fun p => ('\\' :: c :: p.1, p.2)
  | c :: rest => (quoted? rest).map fun p => (c :: p.1, p.2)

/-- An octal digit's value. -/
def octal? (c : Char) : Option Nat :=
  if '0' ≤ c ∧ c ≤ '7' then some (c.toNat - 48) else none

/-- The byte of three octal digits. -/
def octalByte? (a b c : Char) : Option UInt8 :=
  match octal? a, octal? b, octal? c with
  | some x, some y, some z => if x ≤ 3 then some (UInt8.ofNat ((x * 8 + y) * 8 + z)) else none
  | _, _, _ => none

/-- The bytes of the inside of a quoted text, escapes read: three octal digits are a byte, and any
other escaped character stands for itself. -/
def unescape : List Char → List UInt8
  | [] => []
  | '\\' :: a :: b :: c :: rest =>
    match octalByte? a b c with
    | some byte => byte :: unescape rest
    | none => Bytes.utf8 [a] ++ unescape (b :: c :: rest)
  | '\\' :: a :: rest => Bytes.utf8 [a] ++ unescape rest
  | c :: rest => Bytes.utf8 [c] ++ unescape rest

/-- Whether what follows a quoted value is the end of its pair; if so, what follows the pair. -/
def afterPair? (s : List Char) : Option (List Char) :=
  match s.dropWhile isSpace with
  | [] => some []
  | ';' :: rest => some rest
  | _ => none

/-- Whether a name or a plain value can stand in a pair. -/
def isPlain (s : List Char) : Bool := s.all fun c => !isSpace c && c != '"'

/-- The pair at the start of a text, if it is one, and what follows it. A pair with a bad name is
passed over up to the next semicolon, wherever that stands. -/
def pair (s : List Char) : List (List Char × List Char) × List Char :=
  let whole := s.takeWhile (· ≠ ';')
  let rest := s.drop (whole.length + 1)
  let before := whole.takeWhile (· ≠ '=')
  let name := trim before
  let value := trim (whole.drop (before.length + 1))
  if name = [] || !isPlain name then ([], rest)
  else
    let plain := (if isPlain value then [(name, value)] else [], rest)
    match (s.drop (before.length + 1)).dropWhile isSpace with
    | '"' :: inside =>
      match quoted? inside with
      | none => plain
      | some (text, after) =>
        match afterPair? after with
        | none => plain
        | some rest => ([(name, Bytes.lossy (unescape text))], rest)
    | _ => plain

/-- The pairs of a text; each takes at least one character. -/
def pairsFrom : (fuel : Nat) → List Char → List (List Char × List Char)
  | 0, _ => []
  | _, [] => []
  | fuel + 1, s => (pair s).1 ++ pairsFrom fuel (pair s).2

/-- All cookies of a text. -/
def pairs (s : List Char) : List (List Char × List Char) := pairsFrom (s.length + 1) s

/-- **The cookie of a name** in the field of a request; empty if there is none. -/
def get (field name : String) : String :=
  match (pairs field.toList).find? fun p => p.1 = name.toList with
  | some p => String.ofList p.2
  | none => ""

end Cookies

/-- A cookie to be set. -/
structure SetCookie where
  name : String
  value : String
  expires : String
  maxAge : Int
  isSecure : Bool
  isHttpOnly : Bool
  path : String
  sameSite : Option String

namespace SetCookie

/-- The characters of a value that needs no quotes. -/
def isValueChar (c : Char) : Bool :=
  c.isAlphanum || "_!#$%&'()*+-./:<=>?@[]^`\x7b|\x7d~".toList.contains c

/-- A byte of a quoted value. -/
def escapeByte (b : UInt8) : List Char :=
  let c := Char.ofNat b.toNat
  if c = '"' ∨ c = '\\' then ['\\', c]
  else if b < 0x20 ∨ c = ',' ∨ c = ';' ∨ 0x7f ≤ b then
    let n := b.toNat
    ['\\', Char.ofNat (48 + n / 64), Char.ofNat (48 + n / 8 % 8), Char.ofNat (48 + n % 8)]
  else [c]

/-- A value as it is written, quoted if need be. -/
def valueText (value : String) : String :=
  if value.toList.all isValueChar then value
  else String.ofList ('"' :: (Bytes.ofText value).flatMap escapeByte ++ ['"'])

/-- A name as it is written: its bytes, one character each. -/
def nameText (name : String) : String :=
  String.ofList ((Bytes.ofText name).map fun b => Char.ofNat b.toNat)

/-- The words that say to which sites a cookie goes. -/
def sameSites : List String := ["Strict", "Lax", "None"]

/-- One of these words, given in any letter case. -/
def sameSite? (s : String) : Option String :=
  sameSites.find? (· == String.ofList (Text.capitalize s.toList))

/-- The characters that stand for themselves in a path attribute. -/
def isPathChar : Char → Bool := Percent.isPlainOr "_.-~%!$&'()*+,/:=@"

/-- **The field that sets a cookie.** A name must not break the line. -/
def text (c : SetCookie) : Except Failure String :=
  let parts :=
    [nameText c.name ++ "=" ++ valueText c.value, "Expires=" ++ c.expires,
      "Max-Age=" ++ toString c.maxAge] ++
    (if c.isSecure then ["Secure"] else []) ++ (if c.isHttpOnly then ["HttpOnly"] else []) ++
    ["Path=" ++ String.ofList (Percent.encode isPathChar c.path.toList)] ++
    (match c.sameSite with
     | some word => ["SameSite=" ++ word]
     | none => [])
  if c.name.toList.any (fun ch => ch = '\n' || ch = '\r') then .error .badCookie
  else .ok ("; ".intercalate parts)

end SetCookie
end LoginGate.Http
