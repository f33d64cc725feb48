import LoginGate.Json.Writer
import LoginGate.Number.Places
import LoginGate.Text.Quoted

/-!
# Log/Arguments — messages with percent signs

Standard loggers take a message and arguments. A percent sign starts a directive that takes the next
argument, or a named one where a single object was given, and writes it as text, as a number in some
base or with some places, or as a character. Flags, a width and a precision say how. Without
arguments a message stays as it is.
-/

namespace LoginGate.Log.Arguments

/-- What can be wrong with a message and its arguments. -/
inductive Fault where
  /-- A directive that cannot be read. -/
  | malformed
  /-- Too few or too many arguments, or one of the wrong kind. -/
  | mismatch
  | noSuchName
  | tooLarge
  deriving DecidableEq, Repr

mutual

/-- An argument as a literal. -/
def literal : Json → List Char
  | .null => "None".toList
  | .bool true => "True".toList
  | .bool false => "False".toList
  | .int n => Json.writeInt n
  | .real x => x.toText.toList
  | .text s => Text.quoted s.toList
  | .brokenText => Text.quoted ['\ufffd']
  | .array items => '[' :: Json.joined ", ".toList (literals items) ++ [']']
  | .object members => '\x7b' :: Json.joined ", ".toList (memberLiterals members) ++ ['\x7d']

/-- Several arguments as literals. -/
def literals : List Json → List (List Char)
  | [] => []
  | x :: rest => literal x :: literals rest

/-- Members as literals. -/
def memberLiterals : List (String × Json) → List (List Char)
  | [] => []
  | (name, x) :: rest =>
    (Text.quoted name.toList ++ ": ".toList ++ literal x) :: memberLiterals rest

end

/-- An argument as text: a text as itself, everything else as a literal. -/
def plain : Json → List Char
  | .text s => s.toList
  | x => literal x

/-- An argument as a literal in ASCII. -/
def asciiLiteral (x : Json) : List Char :=
  (literal x).flatMap fun c => if c.toNat < 128 then [c] else Text.codeEscape c.toNat

/-- The flags of a directive. -/
structure Flags where
  left : Bool
  plus : Bool
  blank : Bool
  alternate : Bool
  zeros : Bool

/-- A directive between its percent sign and its letter. -/
structure Shape where
  flags : Flags
  width : Nat
  precision : Option Nat

/-- The arguments that are left: positional ones, or one object whose members have names. -/
inductive Supply where
  | positional (rest : List Json)
  | named (members : List (String × Json)) (whole : Option Json)

/-- The next argument. -/
def Supply.next : Supply → Except Fault (Json × Supply)
  | .positional (x :: rest) => .ok (x, .positional rest)
  | .positional [] => .error .mismatch
  | .named members (some x) => .ok (x, .named members none)
  | .named _ none => .error .mismatch

/-- The name between parentheses, which may themselves hold parentheses in pairs; the first one is
already read. -/
def name : (depth : Nat) → List Char → Except Fault (List Char × List Char)
  | _, [] => .error .malformed
  | depth, c :: rest =>
    if c = ')' ∧ depth = 0 then .ok ([], rest)
    else
      let depth := if c = '(' then depth + 1 else if c = ')' then depth - 1 else depth
      match name depth rest with
      | .ok (n, rest) => .ok (c :: n, rest)
      | .error e => .error e

/-- The flags at the start of a text. -/
def flags : Flags → List Char → Flags × List Char
  | f, '-' :: rest => flags { f with left := true } rest
  | f, '+' :: rest => flags { f with plus := true } rest
  | f, ' ' :: rest => flags { f with blank := true } rest
  | f, '#' :: rest => flags { f with alternate := true } rest
  | f, '0' :: rest => flags { f with zeros := true } rest
  | f, s => (f, s)

/-- The greatest width. -/
def maxWidth : Nat := 0x7fffffffffffffff

/-- The greatest precision. -/
def maxPrecision : Nat := 0x7fffffff

/-- An argument as a width or a precision. -/
def measureOf (limit : Nat) : Json → Except Fault Int
  | .int n => if -(limit : Int) ≤ n ∧ n ≤ limit then .ok n else .error .tooLarge
  | .bool b => .ok (if b then 1 else 0)
  | _ => .error .mismatch

/-- A width or a precision: digits, or a star for an argument; a missing one counts as zero. -/
def measure (limit : Nat) (supply : Supply) :
    List Char → Except Fault (Int × Supply × List Char)
  | '*' :: rest => do
    let (x, supply) ← supply.next
    return (← measureOf limit x, supply, rest)
  | s =>
    let digits := s.takeWhile Char.isDigit
    let n := Number.ofDigits 10 (digits.map fun c => c.toNat - 48)
    if n ≤ limit then .ok (n, supply, s.drop digits.length) else .error .malformed

/-- Text padded with blanks. -/
def padText (shape : Shape) (s : List Char) : List Char :=
  let gap := List.replicate (shape.width - s.length) ' '
  if shape.flags.left then s ++ gap else gap ++ s

/-- A number padded: zeros go between its sign with its mark and its digits. -/
def padNumber (shape : Shape) (negative : Bool) (mark digits : List Char) : List Char :=
  let sign :=
    if negative then ['-'] else if shape.flags.plus then ['+'] else if shape.flags.blank then [' ']
    else []
  let head := sign ++ mark
  let gap := shape.width - (head.length + digits.length)
  if shape.flags.left then head ++ digits ++ List.replicate gap ' '
  else if shape.flags.zeros then head ++ List.replicate gap '0' ++ digits
  else List.replicate gap ' ' ++ head ++ digits

/-- An argument as an integer; a number with a fraction loses it where that is allowed. -/
def integer (allowFraction : Bool) : Json → Except Fault Int
  | .int n => .ok n
  | .bool b => .ok (if b then 1 else 0)
  | .real x =>
    if allowFraction then
      match x.truncate? with
      | some n => .ok n
      | none => if x = .nan then .error .malformed else .error .tooLarge
    else .error .mismatch
  | _ => .error .mismatch

/-- An integer in a base. -/
def writeInteger (shape : Shape) (base : Nat) (capital : Bool) (mark : List Char) (n : Int) :
    List Char :=
  let digits := Nat.toDigits base n.natAbs
  let digits := List.replicate (shape.precision.getD 0 - digits.length) '0' ++ digits
  let up := fun c : Char => if capital then c.toUpper else c
  padNumber shape (n < 0) ((if shape.flags.alternate then mark else []).map up) (digits.map up)

/-- An argument as a binary64 number. -/
def real : Json → Except Fault Binary64
  | .real x => .ok x
  | .int n =>
    match Binary64.ofInt n with
    | .infinite _ => .error .tooLarge
    | x => .ok x
  | .bool b => .ok (.ofInt (if b then 1 else 0))
  | _ => .error .mismatch

/-- A binary64 number with places. -/
def writeReal (shape : Shape) (letter : Char) (x : Binary64) : List Char :=
  let places := shape.precision.getD 6
  let up := fun c : Char => if letter.isUpper then c.toUpper else c
  match x with
  | .nan => padNumber shape false [] ("nan".toList.map up)
  | .infinite negative => padNumber shape negative [] ("inf".toList.map up)
  | .finite negative m e =>
    let (num, den) := Binary64.magnitude m e
    let body :=
      if letter = 'f' ∨ letter = 'F' then Binary64.fixedText shape.flags.alternate num den places
      else if letter = 'e' ∨ letter = 'E' then
        Binary64.scientificText shape.flags.alternate num den places
      else Binary64.generalText shape.flags.alternate num den places
    padNumber shape negative [] (body.map up)

/-- An argument as a character. -/
def character : Json → Except Fault (List Char)
  | .int n => if 0 ≤ n ∧ n < 0x110000 then .ok [Char.ofNat n.toNat] else .error .tooLarge
  | .bool b => .ok [if b then '\x01' else '\x00']
  | .text s => if s.length = 1 then .ok s.toList else .error .mismatch
  | _ => .error .mismatch

/-- Text cut to a precision. -/
def cut (shape : Shape) (s : List Char) : List Char :=
  match shape.precision with
  | some p => s.take p
  | none => s

/-- **An argument as a directive's letter asks for it.** -/
def write (shape : Shape) (letter : Char) (x : Json) : Except Fault (List Char) :=
  match letter with
  | 's' => .ok (padText shape (cut shape (plain x)))
  | 'r' => .ok (padText shape (cut shape (literal x)))
  | 'a' => .ok (padText shape (cut shape (asciiLiteral x)))
  | 'd' | 'i' | 'u' => (integer true x).map (writeInteger shape 10 false [])
  | 'x' => (integer false x).map (writeInteger shape 16 false "0x".toList)
  | 'X' => (integer false x).map (writeInteger shape 16 true "0x".toList)
  | 'o' => (integer false x).map (writeInteger shape 8 false "0o".toList)
  | 'c' => (character x).map (padText shape)
  | 'e' | 'E' | 'f' | 'F' | 'g' | 'G' => (real x).map (writeReal shape letter)
  | _ => .error .malformed

/-- A directive's shape; the percent sign and a name are already read. -/
def shape (supply : Supply) (s : List Char) : Except Fault (Shape × Supply × List Char) := do
  let (f, rest) := flags ⟨false, false, false, false, false⟩ s
  let (w, supply, rest) ← measure maxWidth supply rest
  let f := if w < 0 then { f with left := true } else f
  let (p, supply, rest) ←
    match rest with
    | '.' :: rest => do
      let (p, supply, rest) ← measure maxPrecision supply rest
      pure (some p.toNat, supply, rest)
    | rest => pure (none, supply, rest)
  let rest := match rest with
    | 'h' :: rest | 'l' :: rest | 'L' :: rest => rest
    | rest => rest
  return (⟨f, w.natAbs, p⟩, supply, rest)

/-- The argument that a parenthesised name asks for becomes the next one. -/
def named (supply : Supply) (s : List Char) : Except Fault (Supply × List Char) :=
  match supply with
  | .positional _ => .error .mismatch
  | .named members _ => do
    let (key, rest) ← name 0 s
    match Json.lookup? (String.ofList key) members with
    | some x => return (.named members (some x), rest)
    | none => .error .noSuchName

/-- Write a message, directive by directive. -/
def fillFrom : (fuel : Nat) → Supply → List Char → Except Fault (List Char)
  | _, .positional (_ :: _), [] => .error .mismatch
  | _, _, [] => .ok []
  | 0, _, _ => .error .malformed
  | fuel + 1, supply, c :: rest =>
    if c ≠ '%' then (fillFrom fuel supply rest).map (c :: ·)
    else
      match rest with
      | '%' :: rest => (fillFrom fuel supply rest).map ('%' :: ·)
      | rest => do
        let (supply, rest) ←
          match rest with
          | '(' :: rest => named supply rest
          | rest => pure (supply, rest)
        let (form, supply, rest) ← shape supply rest
        match rest with
        | [] => .error .malformed
        | letter :: rest =>
          let (x, supply) ← supply.next
          let shown ← write form letter x
          let more ← fillFrom fuel supply rest
          return shown ++ more

/-- **A message with its arguments.** A single object that is not empty gives its members by name.
-/
def fill (message : String) (args : List Json) : Except Fault String :=
  match args with
  | [] => .ok message
  | args =>
    let supply : Supply :=
      match args with
      | [.object (m :: ms)] => .named (m :: ms) (some (.object (m :: ms)))
      | args => .positional args
    (fillFrom (message.length + 1) supply message.toList).map String.ofList

end LoginGate.Log.Arguments
