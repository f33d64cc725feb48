import LoginGate.Number.IntegerText
import LoginGate.Pattern.Basic
import LoginGate.Text.Category
import LoginGate.Text.CharName

/-!
# Pattern/Reader — patterns from text

A pattern is written as a text in which most characters stand for themselves. A backslash and the
character after it are read as one token. The reader keeps count of the groups: a group can be named
again only after it has ended, and in a condition on what lies behind only if it has ended before
it, since the width of such a condition must be known.
-/

namespace LoginGate.Pattern

/-- Why a text is no pattern. -/
inductive Fault where
  | malformed
  /-- A number of repetitions is too large. -/
  | tooMany
  | tooDeep
  deriving DecidableEq, Repr

/-- What is read at once. -/
inductive Token where
  | plain (c : Char)
  | escaped (c : Char)
  deriving DecidableEq, Repr

/-- The characters of a token. -/
def Token.text : Token → List Char
  | .plain c => [c]
  | .escaped c => ['\\', c]

/-- A text in tokens; it must not end with a lone backslash. -/
def tokens? : List Char → Option (List Token)
  | [] => some []
  | ['\\'] => none
  | '\\' :: c :: rest => (tokens? rest).map (.escaped c :: ·)
  | c :: rest => (tokens? rest).map (.plain c :: ·)

/-- The state of the reader. -/
structure Reader where
  rest : List Token
  /-- How many groups have been opened. -/
  opened : Nat := 0
  names : List (List Char × Nat) := []
  /-- The groups that have ended, and their widths. -/
  closed : List (Nat × Nat × Nat) := []
  /-- Inside a condition on what lies behind: how many groups were open before it. -/
  known : Option Nat := none
  /-- The groups that a choice asks for, whether they are there yet or not. -/
  promised : List Nat := []
  /-- The mode for the whole pattern. -/
  mode : Mode
  /-- Whether the classes of all of Unicode have been asked for. -/
  unicode : Bool := false

/-- A part of the reader. -/
abbrev Reading := StateT Reader (Except Fault)

namespace Reading

/-- The text is no pattern. -/
def refuse {α : Type} : Reading α := fun _ => .error .malformed

/-- A condition that a pattern must meet. -/
def demand (b : Bool) : Reading Unit := if b then pure () else refuse

/-- The token ahead. -/
def peek? : Reading (Option Token) := return (← get).rest.head?

/-- Pass over the token ahead. -/
def drop : Reading Unit := modify fun r => { r with rest := r.rest.drop 1 }

/-- Take the token ahead. -/
def next? : Reading (Option Token) := do
  let t ← peek?
  drop
  return t

/-- Take the token ahead, which must be there. -/
def next : Reading Token := do
  match ← next? with
  | some t => return t
  | none => refuse

/-- Pass over a character if it is ahead. -/
def accept (c : Char) : Reading Bool := do
  if (← peek?) = some (.plain c) then
    drop
    return true
  else return false

/-- Pass over a character that must be ahead. -/
def require (c : Char) : Reading Unit := do demand (← accept c)

/-- Take at most `n` characters of a class. -/
def takeUpTo (holds : Char → Bool) : (n : Nat) → Reading (List Char)
  | 0 => return []
  | n + 1 => do
    match ← peek? with
    | some (.plain c) =>
      if holds c then
        drop
        return c :: (← takeUpTo holds n)
      else return []
    | _ => return []

/-- Take the decimal digits ahead. -/
def digits : Reading (List Char) := do takeUpTo Char.isDigit (← get).rest.length

/-- Take a name of at least one character, and the character that ends it. -/
def nameUntil (close : Char) : Reading (List Char) := do
  let r ← get
  let name := r.rest.takeWhile (· != .plain close)
  demand (!name.isEmpty && name.length < r.rest.length)
  set { r with rest := r.rest.drop (name.length + 1) }
  return name.flatMap Token.text

/-! ## Characters -/

/-- The value of a digit in base eight. -/
def octal? (c : Char) : Option Nat := if '0' ≤ c ∧ c ≤ '7' then some (c.toNat - 48) else none

/-- Whether a character is a digit in base eight. -/
def isOctal (c : Char) : Bool := (octal? c).isSome

/-- Whether a character is an ASCII digit in base sixteen. -/
def isHex (c : Char) : Bool := c.isDigit || ('a' ≤ c && c ≤ 'f') || ('A' ≤ c && c ≤ 'F')

/-- The number of some digits. -/
def numberOf (base : Nat) (ds : List Char) : Nat :=
  Number.ofDigits base (ds.filterMap (Number.digitIn? base))

/-- The code point of exactly `n` digits in base sixteen. -/
def hexCode (n : Nat) : Reading Letters := do
  let ds ← takeUpTo isHex n
  let code := numberOf 16 ds
  demand (ds.length == n && code ≤ 0x10ffff)
  return .range code code

/-- The code point of a letter behind a backslash that stands for a control character. -/
def controlCode? : Char → Option Nat
  | 'a' => some 7
  | 'f' => some 12
  | 'n' => some 10
  | 'r' => some 13
  | 't' => some 9
  | 'v' => some 11
  | _ => none

/-- The class of a letter behind a backslash. -/
def kindOf? : Char → Option Letters
  | 'd' => some (.kind .digit false)
  | 'D' => some (.kind .digit true)
  | 's' => some (.kind .space false)
  | 'S' => some (.kind .space true)
  | 'w' => some (.kind .word false)
  | 'W' => some (.kind .word true)
  | _ => none

/-- The character whose name stands in braces. -/
def named : Reading Letters := do
  require '\x7b'
  match Text.charNamed? (← nameUntil '\x7d') with
  | some c => return .one c
  | none => refuse

/-- The characters of an escape that is the same inside and outside of sets. -/
def plainEscape (c : Char) : Reading Letters := do
  match controlCode? c, kindOf? c with
  | some code, _ => return .range code code
  | none, some letters => return letters
  | none, none =>
    match c with
    | 'x' => hexCode 2
    | 'u' => hexCode 4
    | 'U' => hexCode 8
    | 'N' => named
    | c =>
      demand (!c.isAlphanum)
      return .one c

/-- The characters of an escape in a set. -/
def setEscape (c : Char) : Reading Letters := do
  if c = 'b' then return .range 8 8
  else if isOctal c then
    let code := numberOf 8 (c :: (← takeUpTo isOctal 2))
    demand (code ≤ 0xff)
    return .range code code
  else plainEscape c

/-- Whether a token is this character. -/
def isPlain (c : Char) (t : Token) : Bool := t == .plain c

/-- The characters that a token in a set stands for. -/
def setLetters (t : Token) : Reading Letters :=
  match t with
  | .plain c => return .one c
  | .escaped c => setEscape c

/-- What stands in a set, up to its closing bracket; at least one token does. -/
def setItems : (fuel : Nat) → (isFirst : Bool) → Reading (List Letters)
  | 0, _ => refuse
  | fuel + 1, isFirst => do
    let t ← next
    if isPlain ']' t && !isFirst then return []
    else
      let item ← setLetters t
      if ← accept '-' then
        let u ← next
        if isPlain ']' u then return [item, .one '-']
        else
          match item, ← setLetters u with
          | .range low _, .range high _ =>
            demand (low ≤ high)
            return .range low high :: (← setItems fuel false)
          | _, _ => refuse
      else return item :: (← setItems fuel false)

/-- A set, its opening bracket already read. -/
def set (mode : Mode) : Reading Pattern := do
  let negated ← accept '^'
  let letters ← setItems ((← get).rest.length + 1) true
  return .char ⟨negated, letters, mode⟩

/-! ## Groups -/

/-- Whether a group has ended. -/
def isClosed (r : Reader) (number : Nat) : Bool := r.closed.any (·.1 == number)

/-- A group that is referred to must be known where only widths known count. -/
def demandKnown (number : Nat) : Reading Unit := do
  let r ← get
  demand (r.known.all fun known => isClosed r number && number ≤ known)

/-- What a group has matched, again. -/
def reference (mode : Mode) (number : Nat) : Reading Pattern := do
  demand (isClosed (← get) number)
  demandKnown number
  return .again number mode

/-- An escape of digits, the first of which is not zero: three digits in base eight are a code
point, and anything else is a reference. -/
def digitEscape (mode : Mode) (c : Char) : Reading Pattern := do
  match ← takeUpTo Char.isDigit 1 with
  | [d] =>
    let third ← if isOctal c && isOctal d then takeUpTo isOctal 1 else pure []
    if third.isEmpty then reference mode (numberOf 10 [c, d])
    else
      let code := numberOf 8 ([c, d] ++ third)
      demand (code ≤ 0xff)
      return .char ⟨false, [.range code code], mode⟩
  | _ => reference mode (numberOf 10 [c])

/-- An escape outside of sets. -/
def escape (mode : Mode) (c : Char) : Reading Pattern := do
  match c with
  | 'A' => return .place .textStart
  | 'Z' => return .place .textEnd
  | 'b' => return .place (.wordEdge mode.asciiOnly false)
  | 'B' => return .place (.wordEdge mode.asciiOnly true)
  | '0' =>
    let code := numberOf 8 (← takeUpTo isOctal 2)
    return .char ⟨false, [.range code code], mode⟩
  | c =>
    if c.isDigit then digitEscape mode c
    else return .char ⟨false, [← plainEscape c], mode⟩

/-- Whether a text is a name: letters, digits and underscores, with no digit first. -/
def isName (name : List Char) : Bool :=
  name.all (fun c => Text.isWord c && (!Text.isNumber c || (Text.decimalDigit? c).isSome)) &&
    name.head?.any fun c => !Text.isNumber c

/-- The widths of a part of a pattern. -/
def widthOf (p : Pattern) : Reading (Nat × Nat) := do
  let closed := (← get).closed
  return p.width fun number => ((closed.find? (·.1 == number)).map (·.2)).getD (0, 0)

/-- Open a group, under a name if it has one. -/
def openGroup (name : Option (List Char)) : Reading Nat := do
  let r ← get
  let number := r.opened + 1
  match name with
  | none => modify fun r => { r with opened := number }
  | some name =>
    demand (r.names.all (·.1 != name))
    modify fun r => { r with opened := number, names := (name, number) :: r.names }
  return number

/-- Note that a group has ended. -/
def closeGroup (number : Nat) (body : Pattern) : Reading Unit := do
  let w ← widthOf body
  modify fun r => { r with closed := (number, w) :: r.closed }

/-- The group that a choice asks for, by name or number. -/
def asked : Reading Nat := do
  let name ← nameUntil ')'
  let number ←
    if isName name then
      match (← get).names.find? (·.1 == name) with
      | some (_, number) => pure number
      | none => refuse
    else
      match Number.integer? 10 name with
      | some (.ofNat (n + 1)) =>
        modify fun r => { r with promised := (n + 1) :: r.promised }
        pure (n + 1)
      | _ => refuse
  demandKnown number
  return number

/-! ## Modes -/

/-- The letters for modes. -/
def modeLetters : List Char := "aimsxut".toList

/-- A mode with the switch of a letter set. -/
def withSwitch (on : Bool) (mode : Mode) : Char → Mode
  | 'i' => { mode with ignoreCase := on }
  | 'm' => { mode with byLine := on }
  | 's' => { mode with dotAll := on }
  | 'x' => { mode with spaced := on }
  | 'a' => { mode with asciiOnly := on }
  | 'u' => { mode with asciiOnly := !on }
  | 't' => { mode with unrepeated := on }
  | _ => mode

/-- Whether letters ask for the classes of ASCII and for those of Unicode. -/
def isTorn (letters : List Char) : Bool := letters.contains 'a' && letters.contains 'u'

/-- The switches of a group: what is set and cleared in it, or what is set for the whole pattern. -/
inductive Switches where
  | inside (on off : List Char)
  | everywhere (on : List Char)

/-- The switches whose first character is a given one. -/
def switches (first : Char) : Reading Switches := do
  let modeRun : Reading (List Char) := do takeUpTo modeLetters.contains (← get).rest.length
  let on ← if first = '-' then pure [] else do
    let more ← modeRun
    pure (first :: more)
  demand (!isTorn on)
  let close ← if first = '-' then pure first else
    match ← next with
    | .plain c => pure c
    | .escaped _ => refuse
  match close with
  | ')' => return .everywhere on
  | ':' =>
    demand (!on.contains 't')
    return .inside on []
  | '-' =>
    let off ← modeRun
    require ':'
    demand (!off.isEmpty && off.all "imsx".toList.contains && !on.contains 't' &&
      on.all (!off.contains ·))
    return .inside on off
  | _ => refuse

/-- Set switches for the whole pattern. -/
def switchAll (on : List Char) : Reading Mode := do
  let r ← get
  let mode := on.foldl (withSwitch true) r.mode
  let unicode := r.unicode || on.contains 'u'
  demand (!(unicode && (r.mode.asciiOnly || on.contains 'a')))
  modify fun r => { r with mode, unicode }
  return mode

/-! ## Repetitions -/

/-- From this number on repetitions are not counted. -/
def tooManyRounds : Nat := 0xffffffff

/-- A number of repetitions; none is written as no digits. -/
def rounds (ds : List Char) : Reading (Option Nat) :=
  if ds.isEmpty then return none
  else
    let n := numberOf 10 ds
    if tooManyRounds ≤ n then fun _ => .error .tooMany else return some n

/-- The least and the greatest number of repetitions between braces, the opening one already read.
If there are none, the brace stands for itself and nothing more is read. -/
def braces? : Reading (Option (Nat × Option Nat)) := do
  let start ← get
  if (← peek?).any (isPlain '\x7d') then return none
  else
    let least ← digits
    let most ← if ← accept ',' then digits else pure least
    if ← accept '\x7d' then
      let low := (← rounds least).getD 0
      let high ← rounds most
      demand (high.all (low ≤ ·))
      return some (low, high)
    else
      MonadState.set start
      return none

/-- The number of repetitions that a token asks for, if it asks for any. -/
def repetition? (t : Token) : Reading (Option (Nat × Option Nat)) :=
  match t with
  | .plain '?' => return some (0, some 1)
  | .plain '*' => return some (0, none)
  | .plain '+' => return some (1, none)
  | .plain '\x7b' => braces?
  | _ => return none

/-- The manner of a repetition. -/
def manner : Reading Manner := do
  if ← accept '?' then return .fewest
  else if ← accept '+' then return .mostOnly
  else return .most

/-- A part repeated. -/
def repeated (mode : Mode) (least : Nat) (most : Option Nat) (part : Option Pattern) :
    Reading Pattern := do
  match part with
  | none => refuse
  | some p =>
    demand (!p.isPlace && !p.isMany && !mode.unrepeated)
    return .many (← manner) least most p

/-! ## The whole -/

/-- Pass over a comment up to the end of its line. -/
def dropLine : Reading Unit := modify fun r =>
  { r with rest := (r.rest.dropWhile (· != .plain '\n')).drop 1 }

/-- Whether a token is a blank that may stand between parts. -/
def isSpacing (t : Token) : Bool :=
  match t with
  | .plain c => c == ' ' || (9 ≤ c.toNat && c.toNat ≤ 13)
  | .escaped _ => false

/-- A token that stands for a part by itself. -/
def part (mode : Mode) (t : Token) : Reading Pattern :=
  match t with
  | .escaped c => escape mode c
  | .plain '[' => set mode
  | .plain '^' => return .place (if mode.byLine then .lineStart else .textStart)
  | .plain '$' => return .place (if mode.byLine then .lineEnd else .lastLineEnd)
  | .plain '.' =>
    return .char ⟨true, if mode.dotAll then [] else [.one '\n'], mode⟩
  | .plain c => return .char ⟨false, [.one c], mode⟩

/-- Parts in a row, the last one first. -/
def row (parts : List Pattern) : Pattern :=
  parts.foldl (fun after p => match after with
    | .empty => p
    | after => .seq p after) .empty

/-- What a pair of parentheses is. -/
inductive Parenthesis where
  /-- A comment, or switches: nothing to match. -/
  | note
  | switched (mode : Mode)
  | part (p : Pattern)

mutual

/-- Alternatives up to the end or a closing parenthesis. -/
def alternatives : (fuel depth : Nat) → (mode : Option Mode) → (isFirst : Bool) → Reading Pattern
  | 0, _, _, _ => refuse
  | fuel + 1, depth, mode, isFirst => do
    let own := mode.getD (← get).mode
    let p ← parts fuel depth own isFirst []
    if ← accept '|' then return .choice p (← alternatives fuel depth mode false)
    else return p

/-- Parts up to the end, a bar or a closing parenthesis; those before are given, the last first. -/
def parts : (fuel depth : Nat) → (mode : Mode) → (isFirst : Bool) → List Pattern → Reading Pattern
  | 0, _, _, _, _ => refuse
  | fuel + 1, depth, mode, isFirst, done => do
    match ← peek? with
    | none | some (.plain '|') | some (.plain ')') => return row done
    | some t =>
      drop
      if mode.spaced && isSpacing t then parts fuel depth mode isFirst done
      else if mode.spaced && isPlain '#' t then
        dropLine
        parts fuel depth mode isFirst done
      else if isPlain '(' t then
        match ← parenthesis fuel depth mode with
        | .note => parts fuel depth mode isFirst done
        | .switched mode =>
          demand (isFirst && done.isEmpty)
          parts fuel depth mode isFirst done
        | .part p => parts fuel depth mode isFirst (p :: done)
      else
        match ← repetition? t with
        | some (least, most) =>
          let p ← repeated (← get).mode least most done.head?
          parts fuel depth mode isFirst (p :: done.drop 1)
        | none => do
          let p ← part mode t
          parts fuel depth mode isFirst (p :: done)

/-- What stands in parentheses, the opening one already read. -/
def parenthesis : (fuel depth : Nat) → (mode : Mode) → Reading Parenthesis
  | 0, _, _ => refuse
  | _, 0, _ => fun _ => .error .tooDeep
  | fuel + 1, depth + 1, mode => do
    if !(← accept '?') then capturing fuel depth mode none
    else
      match ← next with
      | .escaped _ => refuse
      | .plain c =>
        match c with
        | ':' => return .part (.group none (← inside fuel depth mode))
        | '>' => return .part (.atomic (← inside fuel depth mode))
        | '=' => return .part (.look none true (← inside fuel depth mode))
        | '!' => return .part (.look none false (← inside fuel depth mode))
        | '<' => behind fuel depth mode
        | '(' =>
          let number ← asked
          let yes ← parts fuel depth mode false []
          let no ← if ← accept '|' then parts fuel depth mode false [] else pure .empty
          require ')'
          return .part (.ifGroup number yes no)
        | '#' =>
          let rest := (← get).rest.dropWhile (· != .plain ')')
          demand (!rest.isEmpty)
          modify fun r => { r with rest := rest.drop 1 }
          return .note
        | 'P' =>
          if ← accept '<' then
            let name ← nameUntil '>'
            demand (isName name)
            capturing fuel depth mode (some name)
          else
            require '='
            let name ← nameUntil ')'
            match (← get).names.find? (·.1 == name) with
            | some (_, number) => return .part (← reference mode number)
            | none => refuse
        | c =>
          demand (c == '-' || modeLetters.contains c)
          match ← switches c with
          | .everywhere on => return .switched (← switchAll on)
          | .inside on off =>
            let mode := off.foldl (withSwitch false) (on.foldl (withSwitch true) mode)
            return .part (.group none (← inside fuel depth mode))

/-- A group that remembers what it has matched. -/
def capturing : (fuel depth : Nat) → (mode : Mode) → (name : Option (List Char)) →
    Reading Parenthesis
  | 0, _, _, _ => refuse
  | fuel + 1, depth, mode, name => do
    let number ← openGroup name
    let body ← inside fuel depth mode
    closeGroup number body
    return .part (.group (some number) body)

/-- A condition on what lies behind; all its matches must be of one width. -/
def behind : (fuel depth : Nat) → (mode : Mode) → Reading Parenthesis
  | 0, _, _ => refuse
  | fuel + 1, depth, mode => do
    let wanted ← accept '='
    if !wanted then require '!'
    let known := (← get).known
    modify fun r => { r with known := some (known.getD r.opened) }
    let body ← inside fuel depth mode
    modify fun r => { r with known }
    let (least, most) ← widthOf body
    demand (least == most && least ≤ 0xffffffff)
    return .part (.look (some least) wanted body)

/-- Alternatives and the closing parenthesis. -/
def inside : (fuel depth : Nat) → (mode : Mode) → Reading Pattern
  | 0, _, _ => refuse
  | fuel + 1, depth, mode => do
    let p ← alternatives fuel depth (some mode) false
    require ')'
    return p

end

end Reading

/-- The deepest nesting of parentheses. -/
def maxDepth : Nat := 480

/-- **The pattern that a text describes**, read in some mode. -/
def ofText (mode : Mode) (s : String) : Except Fault Pattern := do
  match tokens? s.toList with
  | none => .error .malformed
  | some tokens =>
    let reading := Reading.alternatives (6 * tokens.length + 8) maxDepth none true
    let (p, r) ← reading.run { rest := tokens, mode }
    if r.rest.isEmpty && r.promised.all (· ≤ r.opened) then return p else .error .malformed

end LoginGate.Pattern
