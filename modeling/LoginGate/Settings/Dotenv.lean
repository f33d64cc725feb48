import LoginGate.Text.Blank

/-!
# Settings/Dotenv — variables from a file

A file of bindings `NAME=value`, one to a line, with comments, an optional `export`, and values that
may be quoted, in single or double quotes, over several lines. A line that cannot be read is passed
over. A value may name variables as `${NAME}` or `${NAME:-default}`: those bound earlier in the
file, or else those of the process.
-/

namespace LoginGate.Dotenv

open LoginGate.Text

/-- A binding; a name may stand alone, without a value. -/
abbrev Binding := List Char × Option (List Char)

/-- A blank that does not end a line. -/
def isGap (c : Char) : Bool := isBlank c && c != '\n' && c != '\r'

/-- Whether a line ends here. -/
def isLineEnd (c : Char) : Bool := c == '\n' || c == '\r'

/-- Line ends of every kind as line feeds. -/
def unifyLines : List Char → List Char
  | [] => []
  | '\r' :: '\n' :: rest => '\n' :: unifyLines rest
  | '\r' :: rest => '\n' :: unifyLines rest
  | c :: rest => c :: unifyLines rest

/-- What follows `export` and a gap; the text itself if it does not start so. -/
def afterExport (s : List Char) : List Char :=
  match s with
  | 'e' :: 'x' :: 'p' :: 'o' :: 'r' :: 't' :: c :: rest =>
    if isGap c then rest.dropWhile isGap else s
  | _ => s

/-- What follows the end of a line, with a comment before it. -/
def afterLine? (s : List Char) : Except (List Char) (List Char) :=
  let bare := s.dropWhile isGap
  let after := match bare with
    | '#' :: _ => bare.dropWhile (!isLineEnd ·)
    | _ => bare
  match after with
  | [] => .ok []
  | c :: rest => if isLineEnd c then .ok rest else .error after

/-- What follows the rest of a line. -/
def restOfLine (s : List Char) : List Char := (s.dropWhile (!isLineEnd ·)).drop 1

/-- The text up to a quote that no backslash escapes. -/
def upToQuote? (quote : Char) : List Char → Option (List Char × List Char)
  | [] => none
  | [c] => if c = quote then some ([], []) else none
  | c :: d :: rest =>
    if c = quote then some ([], d :: rest)
    else if c = '\\' ∧ d = quote then (upToQuote? quote rest).map fun p => (c :: d :: p.1, p.2)
    else (upToQuote? quote (d :: rest)).map fun p => (c :: p.1, p.2)

/-- The text up to the last quote of all. -/
def upToLastQuote? (quote : Char) : List Char → Option (List Char × List Char)
  | [] => none
  | c :: rest =>
    match upToLastQuote? quote rest with
    | some p => some (c :: p.1, p.2)
    | none => if c = quote then some ([], rest) else none

/-- **A quoted text**, its opening quote already read. Where every quote is escaped, the last one
ends the text all the same. -/
def quotedText? (quote : Char) (s : List Char) : Option (List Char × List Char) :=
  (upToQuote? quote s).or (upToLastQuote? quote s)

/-- The character that a backslash and a letter stand for between double quotes. -/
def escapeOf? : Char → Option Char
  | '\\' => some '\\'
  | '\'' => some '\''
  | '"' => some '"'
  | 'a' => some '\x07'
  | 'b' => some '\x08'
  | 'f' => some '\x0c'
  | 'n' => some '\n'
  | 'r' => some '\r'
  | 't' => some '\t'
  | 'v' => some '\x0b'
  | _ => none

/-- Replace the escapes that `decode` knows. -/
def unescape (decode : Char → Option Char) : List Char → List Char
  | '\\' :: c :: rest =>
    match decode c with
    | some d => d :: unescape decode rest
    | none => '\\' :: unescape decode (c :: rest)
  | c :: rest => c :: unescape decode rest
  | [] => []

/-- Between single quotes only the quote and the backslash are escaped. -/
def escapeOfSingle? (c : Char) : Option Char := if c = '\\' ∨ c = '\'' then some c else none

/-- A text without a comment at its end, which starts with a blank and `#`. -/
def beforeComment : (afterBlank : Bool) → List Char → List Char
  | _, [] => []
  | afterBlank, c :: rest =>
    if c = '#' ∧ afterBlank then [] else c :: beforeComment (isBlank c) rest

/-- A text without the blanks at its end. -/
def trimEnd (s : List Char) : List Char := (s.reverse.dropWhile isBlank).reverse

/-- The value at the start of a text, and what follows it; on a failure, where it happened. -/
def value (s : List Char) : Except (List Char) (List Char × List Char) :=
  match s with
  | '\'' :: rest =>
    match quotedText? '\'' rest with
    | some (text, rest) => .ok (unescape escapeOfSingle? text, rest)
    | none => .error s
  | '"' :: rest =>
    match quotedText? '"' rest with
    | some (text, rest) => .ok (unescape escapeOf? text, rest)
    | none => .error s
  | s =>
    let line := s.takeWhile (!isLineEnd ·)
    .ok (trimEnd (beforeComment false line), s.drop line.length)

/-- The value behind an equals sign and a gap. A `#` right after the gap starts a comment. -/
def valueAfterEquals (s : List Char) : Except (List Char) (List Char × List Char) :=
  match s, s.dropWhile isGap with
  | c :: _, '#' :: rest => if isGap c then .ok ([], '#' :: rest) else value s
  | _, rest => value rest

/-- The name at the start of a binding; a comment has none. -/
def name (s : List Char) : Except (List Char) (Option (List Char) × List Char) :=
  match s with
  | '#' :: _ => .ok (none, s)
  | '\'' :: rest =>
    let text := rest.takeWhile (· ≠ '\'')
    match text, rest.drop text.length with
    | _ :: _, _ :: after => .ok (some text, after)
    | _, _ => .error s
  | s =>
    let text := s.takeWhile fun c => c ≠ '=' ∧ c ≠ '#' ∧ !isBlank c
    if text.isEmpty then .error s else .ok (some text, s.drop text.length)

/-- **One binding** from a text that does not start with a blank, and what follows its line. -/
def binding (s : List Char) : Except (List Char) (Option Binding × List Char) := do
  let (name, rest) ← name (afterExport s)
  let (value, rest) ←
    match rest.dropWhile isGap with
    | '=' :: rest => do
      let (v, rest) ← valueAfterEquals rest
      pure (some v, rest)
    | rest => pure (none, rest)
  let rest ← afterLine? rest
  return (name.map fun n => (n, value), rest)

/-- All bindings of a text; each takes at least one character. -/
def bindingsFrom : (fuel : Nat) → List Char → List Binding
  | 0, _ => []
  | fuel + 1, s =>
    match s.dropWhile isBlank with
    | [] => []
    | s =>
      match binding s with
      | .ok (some b, rest) => b :: bindingsFrom fuel rest
      | .ok (none, rest) => bindingsFrom fuel rest
      | .error rest => bindingsFrom fuel (restOfLine rest)

/-- The last binding of a name. -/
def lookup? (name : List Char) : List Binding → Option (Option (List Char))
  | [] => none
  | b :: rest => (lookup? name rest).or (if b.1 = name then some b.2 else none)

/-- A variable named in a value, its opening brace already read: the name, the default, and what
follows. -/
def reference? (s : List Char) : Option (List Char × List Char × List Char) :=
  let name := s.takeWhile fun c => c ≠ '\x7d' ∧ c ≠ ':'
  match s.drop name.length with
  | '\x7d' :: rest => some (name, [], rest)
  | ':' :: '-' :: rest =>
    let default := rest.takeWhile (· ≠ '\x7d')
    match rest.drop default.length with
    | _ :: rest => some (name, default, rest)
    | [] => none
  | _ => none

/-- Replace the variables named in a value. A variable bound to nothing is empty. -/
def expand (known : List Binding) : (fuel : Nat) → List Char → List Char
  | 0, s => s
  | _, [] => []
  | fuel + 1, c :: rest =>
    match c, rest with
    | '$', '\x7b' :: inner =>
      match reference? inner with
      | some (name, default, after) =>
        let shown := match lookup? name known with
          | some bound => bound.getD []
          | none => default
        shown ++ expand known fuel after
      | none => c :: expand known fuel rest
    | _, _ => c :: expand known fuel rest

/-- Replace variables binding by binding; `known` grows along. -/
def expandAll (known : List Binding) : List Binding → List Binding
  | [] => []
  | (name, value) :: rest =>
    let value := value.map fun v => expand known (v.length + 1) v
    (name, value) :: expandAll (known ++ [(name, value)]) rest

/-- A binding in the place of an earlier one of its name, or at the end. -/
def put (b : Binding) : List Binding → List Binding
  | [] => [b]
  | c :: rest => if c.1 = b.1 then b :: rest else c :: put b rest

/-- A text without the mark of its encoding at the start. -/
def withoutMark : List Char → List Char
  | '\ufeff' :: rest => rest
  | s => s

/-- **The variables of a file**, given those of the process: each name where it first stands, with
its last value. -/
def read (process : List Binding) (text : String) : List Binding :=
  let s := unifyLines (withoutMark text.toList)
  (expandAll process (bindingsFrom (s.length + 1) s)).foldl (fun bs b => put b bs) []

end LoginGate.Dotenv
