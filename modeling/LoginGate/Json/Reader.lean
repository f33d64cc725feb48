import LoginGate.Json.Value
import LoginGate.Bytes.Hex
import LoginGate.Bytes.Utf8
import LoginGate.Number.IntegerText

/-!
# Json/Reader — documents from text

The grammar of RFC 8259 with two additions, `NaN`, `Infinity` and `-Infinity` as numbers and halves
of surrogate pairs in strings, and two limits, on the digits of an integer and on the depth of
nesting. The reader takes symbols and gives back what it did not consume. A text is read from left
to right, and the first fault is the one that counts.
-/

namespace LoginGate.Json

open LoginGate.Bytes

/-- Why a text holds no document. -/
inductive Fault where
  | malformed
  /-- Bytes that are no text in the encoding that they show. -/
  | notText
  /-- An integer of more than 4300 digits. -/
  | overlong
  /-- Arrays and objects nested too deep. -/
  | tooDeep
  deriving DecidableEq, Repr

/-- How deep arrays and objects may be nested. -/
def maxDepth : Nat := 960

/-- What an option holds, or else a fault. -/
def Fault.unless {α : Type} (fault : Fault) : Option α → Except Fault α
  | some a => .ok a
  | none => .error fault

/-- Drop leading JSON blanks. -/
def skipBlanks : List Symbol → List Symbol
  | some ' ' :: rest | some '\t' :: rest | some '\n' :: rest | some '\r' :: rest => skipBlanks rest
  | s => s

/-- The rest of a text after a given beginning. -/
def after? : (word : List Char) → List Symbol → Option (List Symbol)
  | [], s => some s
  | c :: word, some d :: rest => if c = d then after? word rest else none
  | _ :: _, _ => none

/-- The longest run of ASCII digits and what follows it. -/
def digits : List Symbol → List Char × List Symbol
  | some c :: rest =>
    if c.isDigit then
      let (ds, rest) := digits rest
      (c :: ds, rest)
    else ([], some c :: rest)
  | s => ([], s)

/-- The value of a run of ASCII digits. -/
def numeral (ds : List Char) : Nat := ds.foldl (fun n d => 10 * n + (d.toNat - 48)) 0

/-- The digits after a decimal point, if a point and a digit come next. -/
def fraction (s : List Symbol) : Option (List Char) × List Symbol :=
  match s with
  | some '.' :: rest =>
    match digits rest with
    | ([], _) => (none, s)
    | (ds, rest) => (some ds, rest)
  | s => (none, s)

/-- The exponent, if one comes next. -/
def exponent (s : List Symbol) : Option Int × List Symbol :=
  match s with
  | some 'e' :: rest | some 'E' :: rest =>
    let (negative, rest') :=
      match rest with
      | some '+' :: r => (false, r)
      | some '-' :: r => (true, r)
      | r => (false, r)
    match digits rest' with
    | ([], _) => (none, s)
    | (ds, after) => (some (if negative then -(numeral ds : Int) else numeral ds), after)
  | s => (none, s)

/-- A number without its sign: no leading zeros, an integer unless a fraction or exponent follows.
-/
def number (negative : Bool) (s : List Symbol) : Except Fault (Json × List Symbol) :=
  let whole :=
    match s with
    | some '0' :: rest => (['0'], rest)
    | s => digits s
  match whole with
  | ([], _) => .error .malformed
  | (ds, rest) =>
    let (frac, rest) := fraction rest
    let (exp, rest) := exponent rest
    match frac, exp with
    | none, none =>
      if Number.maxDecimalDigits < ds.length then .error .overlong
      else .ok (.int (if negative then -(numeral ds : Int) else numeral ds), rest)
    | frac, exp =>
      let places := frac.getD []
      let power := exp.getD 0 - places.length
      .ok (.real (.ofDecimal negative (numeral (ds ++ places)) power), rest)

/-- Four hexadecimal digits. -/
def unit? : List Symbol → Option (Nat × List Symbol)
  | some a :: some b :: some c :: some d :: rest => do
    let a ← hexValue? a
    let b ← hexValue? b
    let c ← hexValue? c
    let d ← hexValue? d
    some (((a * 16 + b) * 16 + c) * 16 + d, rest)
  | _ => none

/-- The low half of a surrogate pair, if its escape comes next. -/
def lowHalf? : List Symbol → Option (Nat × List Symbol)
  | some '\\' :: some 'u' :: rest =>
    match unit? rest with
    | some (n, rest) => if 0xdc00 ≤ n ∧ n ≤ 0xdfff then some (n, rest) else none
    | none => none
  | _ => none

/-- The symbol an escape stands for; the backslash is already consumed. -/
def escape? : List Symbol → Option (Symbol × List Symbol)
  | some '"' :: rest => some (some '"', rest)
  | some '\\' :: rest => some (some '\\', rest)
  | some '/' :: rest => some (some '/', rest)
  | some 'b' :: rest => some (some '\x08', rest)
  | some 'f' :: rest => some (some '\x0c', rest)
  | some 'n' :: rest => some (some '\n', rest)
  | some 'r' :: rest => some (some '\r', rest)
  | some 't' :: rest => some (some '\t', rest)
  | some 'u' :: rest =>
    match unit? rest with
    | none => none
    | some (n, rest) =>
      if 0xd800 ≤ n ∧ n ≤ 0xdbff then
        match lowHalf? rest with
        | some (low, rest) =>
          some (some (Char.ofNat (0x10000 + (n - 0xd800) * 1024 + (low - 0xdc00))), rest)
        | none => some (none, rest)
      else if 0xdc00 ≤ n ∧ n ≤ 0xdfff then some (none, rest)
      else some (some (Char.ofNat n), rest)
  | _ => none

/-- The symbols of a string up to its closing quote; the opening one is already consumed. -/
def string? : (fuel : Nat) → List Symbol → Option (List Symbol × List Symbol)
  | 0, _ => none
  | fuel + 1, s =>
    match s with
    | [] => none
    | some '"' :: rest => some ([], rest)
    | some '\\' :: rest => do
      let (c, rest) ← escape? rest
      let (cs, rest) ← string? fuel rest
      some (c :: cs, rest)
    | c :: rest =>
      if c.any (·.toNat < 0x20) then none
      else do
        let (cs, rest) ← string? fuel rest
        some (c :: cs, rest)

/-- The characters of some symbols, if all are characters. -/
def characters? : List Symbol → Option (List Char)
  | [] => some []
  | some c :: rest => (characters? rest).map (c :: ·)
  | none :: _ => none

/-- A string as a document. -/
def textOfSymbols (s : List Symbol) : Json :=
  match characters? s with
  | some cs => .text (String.ofList cs)
  | none => .brokenText

/-- A string as a member's name. No member is looked up under a name with a replacement character.
-/
def nameOfSymbols (s : List Symbol) : String := String.ofList (s.map (·.getD '\ufffd'))

/-- A string whose opening quote is already consumed. -/
def string (s : List Symbol) : Except Fault (List Symbol × List Symbol) :=
  Fault.malformed.unless (string? (s.length + 1) s)

/-- A word whose first letter is already consumed, and the document that it stands for. -/
def word (tail : String) (doc : Json) (s : List Symbol) : Except Fault (Json × List Symbol) :=
  Fault.malformed.unless ((after? tail.toList s).map fun rest => (doc, rest))

mutual

/-- A document at the start of a text, blanks before it already skipped; `depth` is how many more
brackets may be opened. -/
def value : (fuel depth : Nat) → List Symbol → Except Fault (Json × List Symbol)
  | 0, _, _ => .error .malformed
  | fuel + 1, depth, s =>
    match s with
    | some '"' :: rest => do
      let (cs, rest) ← string rest
      return (textOfSymbols cs, rest)
    | some '\x7b' :: rest =>
      match depth with
      | 0 => .error .tooDeep
      | depth + 1 =>
        match skipBlanks rest with
        | some '\x7d' :: rest => .ok (.object [], rest)
        | rest => do
          let (ms, rest) ← members fuel depth rest
          return (.object ms, rest)
    | some '[' :: rest =>
      match depth with
      | 0 => .error .tooDeep
      | depth + 1 =>
        match skipBlanks rest with
        | some ']' :: rest => .ok (.array [], rest)
        | rest => do
          let (docs, rest) ← items fuel depth rest
          return (.array docs, rest)
    | some 'n' :: rest => word "ull" .null rest
    | some 't' :: rest => word "rue" (.bool true) rest
    | some 'f' :: rest => word "alse" (.bool false) rest
    | some 'N' :: rest => word "aN" (.real .nan) rest
    | some 'I' :: rest => word "nfinity" (.real (.infinite false)) rest
    | some '-' :: some 'I' :: rest => word "nfinity" (.real (.infinite true)) rest
    | some '-' :: rest => number true rest
    | s => number false s

/-- The items of an array up to its closing bracket; at least one is expected. -/
def items : (fuel depth : Nat) → List Symbol → Except Fault (List Json × List Symbol)
  | 0, _, _ => .error .malformed
  | fuel + 1, depth, s => do
    let (doc, rest) ← value fuel depth s
    match skipBlanks rest with
    | some ']' :: rest => .ok ([doc], rest)
    | some ',' :: rest =>
      let (docs, rest) ← items fuel depth (skipBlanks rest)
      return (doc :: docs, rest)
    | _ => .error .malformed

/-- The members of an object up to its closing brace; at least one is expected. -/
def members :
    (fuel depth : Nat) → List Symbol → Except Fault (List (String × Json) × List Symbol)
  | 0, _, _ => .error .malformed
  | fuel + 1, depth, s =>
    match s with
    | some '"' :: rest => do
      let (name, rest) ← string rest
      match skipBlanks rest with
      | some ':' :: rest =>
        let (doc, rest) ← value fuel depth (skipBlanks rest)
        match skipBlanks rest with
        | some '\x7d' :: rest => .ok ([(nameOfSymbols name, doc)], rest)
        | some ',' :: rest =>
          let (more, rest) ← members fuel depth (skipBlanks rest)
          return ((nameOfSymbols name, doc) :: more, rest)
        | _ => .error .malformed
      | _ => .error .malformed
    | _ => .error .malformed

end

/-- **The document a text holds**, with nothing but blanks around it. -/
def ofSymbols (s : List Symbol) : Except Fault Json := do
  let (doc, rest) ← value (s.length + 1) maxDepth (skipBlanks s)
  if (skipBlanks rest).isEmpty then return doc else .error .malformed

/-- The document a text of characters holds. -/
def ofText (s : String) : Except Fault Json := ofSymbols (s.toList.map some)

end LoginGate.Json
