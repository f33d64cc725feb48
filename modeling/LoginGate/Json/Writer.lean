import LoginGate.Json.Value
import LoginGate.Number.Shortest
import LoginGate.Number.IntegerText
import LoginGate.Bytes.Hex

/-!
# Json/Writer — documents as ASCII text

Strings are written in ASCII: controls, quotes and backslashes by their short escapes where they
have one, everything else outside the printable ASCII range by `\u` and four digits, in two halves
above `0xffff`. A layout says what stands between items and after the colon.
-/

namespace LoginGate.Json

/-- What stands between items, and between a name and its value. -/
structure Layout where
  item : List Char
  colon : List Char

/-- No blanks at all. -/
def Layout.compact : Layout := ⟨[','], [':']⟩

/-- A blank after each comma and colon. -/
def Layout.spaced : Layout := ⟨[',', ' '], [':', ' ']⟩

/-- The escape of one UTF-16 unit. -/
def unitEscape (n : Nat) : List Char := '\\' :: 'u' :: Bytes.hexNumeral 4 n

/-- One character inside a string. -/
def escapeChar (c : Char) : List Char :=
  match c with
  | '"' => ['\\', '"']
  | '\\' => ['\\', '\\']
  | '\n' => ['\\', 'n']
  | '\r' => ['\\', 'r']
  | '\t' => ['\\', 't']
  | '\x08' => ['\\', 'b']
  | '\x0c' => ['\\', 'f']
  | c =>
    if ' ' ≤ c ∧ c ≤ '~' then [c]
    else if c.toNat < 0x10000 then unitEscape c.toNat
    else
      let n := c.toNat - 0x10000
      unitEscape (0xd800 + n / 1024) ++ unitEscape (0xdc00 + n % 1024)

/-- A string between quotes. -/
def writeText (s : List Char) : List Char := '"' :: s.flatMap escapeChar ++ ['"']

/-- A number with a fraction; the values that are no numbers have names. -/
def writeReal : Binary64 → List Char
  | .nan => ['N', 'a', 'N']
  | .infinite false => "Infinity".toList
  | .infinite true => "-Infinity".toList
  | x => x.toText.toList

/-- An integer. -/
def writeInt : Int → List Char
  | .ofNat n => Number.decimal n
  | .negSucc n => '-' :: Number.decimal (n + 1)

/-- Parts joined by a separator. -/
def joined (sep : List Char) : List (List Char) → List Char
  | [] => []
  | [part] => part
  | part :: rest => part ++ sep ++ joined sep rest

mutual

/-- A document as text. -/
def write (layout : Layout) : Json → List Char
  | .null => ['n', 'u', 'l', 'l']
  | .bool true => ['t', 'r', 'u', 'e']
  | .bool false => ['f', 'a', 'l', 's', 'e']
  | .int n => writeInt n
  | .real x => writeReal x
  | .text s => writeText s.toList
  | .brokenText => writeText ['\ufffd']
  | .array items => '[' :: joined layout.item (writeItems layout items) ++ [']']
  | .object members => '\x7b' :: joined layout.item (writeMembers layout members) ++ ['\x7d']

/-- The texts of some documents. -/
def writeItems (layout : Layout) : List Json → List (List Char)
  | [] => []
  | doc :: rest => write layout doc :: writeItems layout rest

/-- The texts of some members. -/
def writeMembers (layout : Layout) : List (String × Json) → List (List Char)
  | [] => []
  | (name, doc) :: rest =>
    (writeText name.toList ++ layout.colon ++ write layout doc) :: writeMembers layout rest

end

end LoginGate.Json
