import LoginGate.Bytes.Hex
import LoginGate.Text.Printable

/-!
# Text/Quoted — texts between quotes

Single quotes, unless the text holds a single quote and no double one. Backslashes, the quote in use
and everything that is not shown as itself are escaped, by the shortest of the escapes for line ends
and tabs and of those with two, four or eight hexadecimal digits.
-/

namespace LoginGate.Text

/-- The escape of a character by its code point. -/
def codeEscape (n : Nat) : List Char :=
  if n < 0x100 then '\\' :: 'x' :: Bytes.hexNumeral 2 n
  else if n < 0x10000 then '\\' :: 'u' :: Bytes.hexNumeral 4 n
  else '\\' :: 'U' :: Bytes.hexNumeral 8 n

/-- One character between quotes; `shown` says which characters stand for themselves. -/
def quoteChar (shown : Char → Bool) (quote : Char) (c : Char) : List Char :=
  if c = quote ∨ c = '\\' then ['\\', c]
  else if c = '\n' then ['\\', 'n']
  else if c = '\r' then ['\\', 'r']
  else if c = '\t' then ['\\', 't']
  else if shown c then [c]
  else codeEscape c.toNat

/-- A text between quotes. -/
def quoteWith (shown : Char → Bool) (s : List Char) : List Char :=
  let quote := if '\'' ∈ s ∧ '"' ∉ s then '"' else '\''
  quote :: s.flatMap (quoteChar shown quote) ++ [quote]

/-- **A text between quotes**, every printable character as itself. -/
def quoted (s : List Char) : List Char := quoteWith isPrintable s

/-- A text between quotes in ASCII alone. -/
def quotedAscii (s : List Char) : List Char :=
  quoteWith (fun c => ' ' ≤ c && c ≤ '~') s

end LoginGate.Text
