import LoginGate.Log.Format

/-!
# Log/Template — messages with replacement fields

A template is text in which a field in braces is replaced by a value; doubled braces stand for
single ones. A field names the value, may go on from it to its members and items, may ask for it
quoted, and may say how to pad and cut it; the last of these may hold fields itself, but those hold
none. There is one named value, a text, and no positional one. Reading and replacing go on side by
side, so the leftmost fault is the one that counts.
-/

namespace LoginGate.Log.Template

/-- What can be wrong with a template. -/
inductive Fault where
  /-- Braces that do not pair, or a field that cannot be read. -/
  | malformed
  | noSuchPosition
  | noSuchName
  | noSuchMember
  /-- An index that is no number, or an index into an item that has none. -/
  | badIndex
  /-- A format that the item cannot be brought to. -/
  | format (fault : Format.Fault)
  deriving DecidableEq, Repr

/-- The field's text up to the closing brace, a colon or an exclamation mark, which comes along.
Inside square brackets none of these counts. -/
def fieldName : (inBrackets : Bool) → List Char → Except Fault (List Char × Char × List Char)
  | _, [] => .error .malformed
  | true, c :: rest =>
    match fieldName (c ≠ ']') rest with
    | .ok (name, stop, rest) => .ok (c :: name, stop, rest)
    | .error e => .error e
  | false, c :: rest =>
    if c = '\x7b' then .error .malformed
    else if c = '\x7d' ∨ c = ':' ∨ c = '!' then .ok ([], c, rest)
    else
      match fieldName (c = '[') rest with
      | .ok (name, stop, rest) => .ok (c :: name, stop, rest)
      | .error e => .error e

/-- A format up to the brace that closes its field; braces inside it pair. -/
def formatText : (depth : Nat) → List Char → Except Fault (List Char × List Char)
  | _, [] => .error .malformed
  | depth, c :: rest =>
    if c = '\x7d' ∧ depth = 0 then .ok ([], rest)
    else
      let depth := if c = '\x7b' then depth + 1 else if c = '\x7d' then depth - 1 else depth
      match formatText depth rest with
      | .ok (text, rest) => .ok (c :: text, rest)
      | .error e => .error e

/-- A field: its name, its conversion, its format, and what follows it. -/
structure Field where
  name : List Char
  conversion : Option Char
  format : List Char
  rest : List Char

/-- The field whose opening brace has just been read. -/
def field (s : List Char) : Except Fault Field := do
  let (name, stop, rest) ← fieldName false s
  if stop = '\x7d' then return ⟨name, none, [], rest⟩
  else if stop = ':' then
    let (format, rest) ← formatText 0 rest
    return ⟨name, none, format, rest⟩
  else
    match rest with
    | [] => .error .malformed
    | c :: '\x7d' :: rest => return ⟨name, some c, [], rest⟩
    | c :: ':' :: rest =>
      let (format, rest) ← formatText 0 rest
      return ⟨name, some c, format, rest⟩
    | _ => .error .malformed

/-- The number that a run of digits stands for; `none` if it is no such run. -/
def index? (s : List Char) : Except Fault (Option Nat) :=
  (Format.numeral? s).mapError .format

/-- **The item at an index**, which is written as a text and may be a number: a character of a text,
a kind of a row, what a catalogue has under a name, or a kind narrowed. -/
def atIndex (item : Item) (name : List Char) : Except Fault Item := do
  let index ← index? name
  match item, index with
  | .text s, some n =>
    match s[n]? with
    | some c => .ok (.text [c])
    | none => .error .noSuchPosition
  | .row kinds, some n =>
    match kinds[n]? with
    | some k => .ok (.kind k)
    | none => .error .noSuchPosition
  | .catalogue k, none =>
    match k.own? name with
    | some m => .ok (Item.entry k m)
    | none => .error .noSuchName
  | .catalogue _, some _ => .error .noSuchName
  | .kind k, index =>
    let brackets := match index with
      | some n => Number.decimal n
      | none => Text.quoted name
    if k.canNarrow then .ok (.narrowed k brackets) else .error .badIndex
  | _, _ => .error .badIndex

/-- Follow the members and indices behind a name. -/
def follow : (fuel : Nat) → Item → List Char → Except Fault Item
  | _, item, [] => .ok item
  | 0, _, _ => .error .malformed
  | fuel + 1, item, c :: rest =>
    if c = '.' then
      let name := rest.takeWhile fun c => c ≠ '.' ∧ c ≠ '['
      if name.isEmpty then .error .malformed
      else
        match item.member? name with
        | some next => follow fuel next (rest.drop name.length)
        | none => .error .noSuchMember
    else if c = '[' then
      let name := rest.takeWhile (· ≠ ']')
      match rest.drop name.length with
      | [] => .error .malformed
      | _ :: after =>
        if name.isEmpty then .error .malformed
        else do
          let next ← atIndex item name
          follow fuel next after
    else .error .malformed

/-- The item that a field's name leads to. -/
def lookUp (name value : List Char) (path : List Char) : Except Fault Item := do
  let first := path.takeWhile fun c => c ≠ '.' ∧ c ≠ '['
  let more := path.drop first.length
  if first.isEmpty then .error .noSuchPosition
  else
    match ← index? first with
    | some _ => .error .noSuchPosition
    | none =>
      if first = name then follow (more.length + 1) (.text value) more else .error .noSuchName

/-- An item as a conversion asks for it. -/
def convert (conversion : Option Char) (item : Item) : Except Fault Item :=
  match conversion with
  | none => .ok item
  | some 's' => .ok (.text item.shown)
  | some 'r' => .ok (.text item.quoted)
  | some 'a' =>
    match item with
    | .text s => .ok (.text (Text.quotedAscii s))
    | item => .ok (.text item.quoted)
  | some _ => .error .malformed

/-- Replace the fields of a template whose formats may hold fields `depth` levels down. -/
def fillFrom (name value : List Char) :
    (depth fuel : Nat) → List Char → Except Fault (List Char)
  | _, _, [] => .ok []
  | _, 0, _ => .error .malformed
  | depth, fuel + 1, c :: rest =>
    if c = '\x7d' then
      match rest with
      | '\x7d' :: rest => (fillFrom name value depth fuel rest).map ('\x7d' :: ·)
      | _ => .error .malformed
    else if c = '\x7b' then
      match rest with
      | '\x7b' :: rest => (fillFrom name value depth fuel rest).map ('\x7b' :: ·)
      | rest => do
        let f ← field rest
        let found ← lookUp name value f.name
        let converted ← convert f.conversion found
        let format ←
          if '\x7b' ∈ f.format then
            match depth with
            | 0 => .error .malformed
            | depth + 1 => fillFrom name value depth fuel f.format
          else pure f.format
        let shown ← (Format.item converted format).mapError .format
        let more ← fillFrom name value depth fuel f.rest
        return shown ++ more
    else (fillFrom name value depth fuel rest).map (c :: ·)

/-- **Replace the fields of a template** that may name one value. -/
def fill (name value : String) (template : String) : Except Fault String :=
  (fillFrom name.toList value.toList 1 (template.length + 1) template.toList).map String.ofList

end LoginGate.Log.Template
