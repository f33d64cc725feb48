import LoginGate.Text.Digit

/-!
# Text/CharName — the names of characters

Every printable ASCII character has a name. Names are compared without regard to letter case.
-/

namespace LoginGate.Text

/-- The names of the characters that are neither letters nor digits. -/
def signNames : List (String × Char) :=
  [("SPACE", ' '), ("EXCLAMATION MARK", '!'), ("QUOTATION MARK", '"'), ("NUMBER SIGN", '#'),
   ("DOLLAR SIGN", '$'), ("PERCENT SIGN", '%'), ("AMPERSAND", '&'), ("APOSTROPHE", '\''),
   ("LEFT PARENTHESIS", '('), ("RIGHT PARENTHESIS", ')'), ("ASTERISK", '*'), ("PLUS SIGN", '+'),
   ("COMMA", ','), ("HYPHEN-MINUS", '-'), ("FULL STOP", '.'), ("SOLIDUS", '/'), ("COLON", ':'),
   ("SEMICOLON", ';'), ("LESS-THAN SIGN", '<'), ("EQUALS SIGN", '='), ("GREATER-THAN SIGN", '>'),
   ("QUESTION MARK", '?'), ("COMMERCIAL AT", '@'), ("LEFT SQUARE BRACKET", '['),
   ("REVERSE SOLIDUS", '\\'), ("RIGHT SQUARE BRACKET", ']'), ("CIRCUMFLEX ACCENT", '^'),
   ("LOW LINE", '_'), ("GRAVE ACCENT", '\x60'), ("LEFT CURLY BRACKET", '\x7b'),
   ("VERTICAL LINE", '|'), ("RIGHT CURLY BRACKET", '\x7d'), ("TILDE", '~')]

/-- The names of the digits, from zero on. -/
def digitNames : List String :=
  ["ZERO", "ONE", "TWO", "THREE", "FOUR", "FIVE", "SIX", "SEVEN", "EIGHT", "NINE"]

/-- What follows a beginning, if a name has it. -/
def nameAfter? (start : String) (name : List Char) : Option (List Char) :=
  if start.toList.isPrefixOf name then some (name.drop start.length) else none

/-- The only character of a text, if it is a capital letter. -/
def onlyCapital? : List Char → Option Char
  | [c] => if 'A' ≤ c ∧ c ≤ 'Z' then some c else none
  | _ => none

/-- **The ASCII character with a name.** -/
def charNamed? (name : List Char) : Option Char :=
  let name := name.map Char.toUpper
  let sign := (signNames.find? fun entry => entry.1.toList = name).map (·.2)
  let digit := (nameAfter? "DIGIT " name).bind fun rest =>
    (digitNames.findIdx? fun word => word.toList = rest).map digitChar
  let capital := (nameAfter? "LATIN CAPITAL LETTER " name).bind onlyCapital?
  let small := ((nameAfter? "LATIN SMALL LETTER " name).bind onlyCapital?).map Char.toLower
  ((sign.or digit).or capital).or small

end LoginGate.Text
