import LoginGate.Pattern.Basic

/-!
# Pattern/Matches — whether a text starts with a match

A pattern is tried way by way: `run` takes a spot in the text and what is to be done after the
match, and gives the first outcome that succeeds. A repetition goes on as long as its last round has
moved on, so the characters that are left bound the number of rounds beyond the least one.
-/

namespace LoginGate.Pattern

/-- A spot in a text: what lies before it, nearest first, what follows, and what groups have
matched. -/
structure Spot where
  before : List Char
  after : List Char
  groups : List (Nat × List Char)
  deriving DecidableEq, Repr

namespace Spot

/-- The start of a text. -/
def start (s : List Char) : Spot := ⟨[], s, []⟩

/-- What a group has matched last. -/
def group? (s : Spot) (number : Nat) : Option (List Char) :=
  (s.groups.find? (·.1 == number)).map (·.2)

/-- The spot after a character. -/
def step? (s : Spot) (holds : Char → Bool) : Option Spot :=
  match s.after with
  | c :: rest => if holds c then some { s with before := c :: s.before, after := rest } else none
  | [] => none

/-- The spot after a text, character by character the same. -/
def skip? (s : Spot) (same : Char → Char → Bool) : List Char → Option Spot
  | [] => some s
  | c :: rest => (s.step? (same c)).bind fun s => s.skip? same rest

/-- The spot some characters back. -/
def back? (s : Spot) (n : Nat) : Option Spot :=
  if n ≤ s.before.length then
    some { s with before := s.before.drop n, after := (s.before.take n).reverse ++ s.after }
  else none

/-- A spot after a group that has matched since an earlier one. -/
def closing (s : Spot) (number : Nat) (since : Spot) : Spot :=
  let text := (s.before.take (s.before.length - since.before.length)).reverse
  { s with groups := (number, text) :: s.groups }

/-- Whether a spot is a place of some kind. A text without characters has no word edges, and no spot
that is not one. -/
def isAt (s : Spot) : Place → Bool
  | .textStart => s.before.isEmpty
  | .lineStart => s.before.isEmpty || s.before.head? == some '\n'
  | .textEnd => s.after.isEmpty
  | .lastLineEnd => s.after.isEmpty || s.after == ['\n']
  | .lineEnd => s.after.isEmpty || s.after.head? == some '\n'
  | .wordEdge asciiOnly negated =>
    let isWord (c : Option Char) : Bool := c.any (Kind.word.holds asciiOnly)
    !(s.before.isEmpty && s.after.isEmpty) &&
      (isWord s.before.head? != isWord s.after.head?) != negated

end Spot

/-- What is done after a match. -/
abbrev Then := Spot → Option Spot

/-- A way to match a part and go on. -/
abbrev Run := Spot → Then → Option Spot

/-- Whether a repetition may go on: not from where its last round has started. -/
def hasMoved (last : Option Nat) (s : Spot) : Bool := last != some s.after.length

/-- As many rounds as possible first. -/
def Run.most (run : Run) (next : Then) :
    (fuel least : Nat) → (most : Option Nat) → (last : Option Nat) → Spot → Option Spot
  | 0, _, _, _, s => next s
  | fuel + 1, least, most, last, s =>
    let more := most.map (· - 1)
    if 0 < least then run s (Run.most run next fuel (least - 1) more last)
    else if most == some 0 || !hasMoved last s then next s
    else run s (Run.most run next fuel 0 more (some s.after.length)) <|> next s

/-- As few rounds as possible first. -/
def Run.fewest (run : Run) (next : Then) :
    (fuel least : Nat) → (most : Option Nat) → (last : Option Nat) → Spot → Option Spot
  | 0, _, _, _, s => next s
  | fuel + 1, least, most, last, s =>
    let more := most.map (· - 1)
    if 0 < least then run s (Run.fewest run next fuel (least - 1) more last)
    else
      next s <|>
        (if most == some 0 || !hasMoved last s then none
         else run s (Run.fewest run next fuel 0 more (some s.after.length)))

/-- The spot after as many rounds as possible, each matched in the first way. -/
def Run.mostOnly (run : Run) :
    (fuel least : Nat) → (most : Option Nat) → (last : Option Nat) → Spot → Option Spot
  | 0, _, _, _, s => some s
  | fuel + 1, least, most, last, s =>
    let more := most.map (· - 1)
    if 0 < least then (run s some).bind (Run.mostOnly run fuel (least - 1) more last)
    else if most == some 0 || !hasMoved last s then some s
    else
      match run s some with
      | some t => Run.mostOnly run fuel 0 more (some s.after.length) t
      | none => some s

/-- Whether two characters are the same when a group is matched again. -/
def isSame (mode : Mode) (c d : Char) : Bool :=
  if !mode.ignoreCase then c == d
  else if mode.asciiOnly then c.toLower == d.toLower
  else Text.lowerLetter c == Text.lowerLetter d

/-- **Match a pattern at a spot and go on**: the first outcome that succeeds. -/
def run : Pattern → Run
  | .empty, s, next => next s
  | .char t, s, next => (s.step? t.holds).bind next
  | .place p, s, next => if s.isAt p then next s else none
  | .seq a b, s, next => a.run s fun s => b.run s next
  | .choice a b, s, next => a.run s next <|> b.run s next
  | .group none p, s, next => p.run s next
  | .group (some number) p, s, next => p.run s fun t => next (t.closing number s)
  | .many manner least most p, s, next =>
    let fuel := least + s.after.length + 2
    match manner with
    | .most => Run.most p.run next fuel least most none s
    | .fewest => Run.fewest p.run next fuel least most none s
    | .mostOnly => (Run.mostOnly p.run fuel least most none s).bind next
  | .again number mode, s, next =>
    match s.group? number with
    | some text => (s.skip? (isSame mode) text).bind next
    | none => none
  | .look behind wanted p, s, next =>
    let found :=
      match behind with
      | none => p.run s some
      | some n => (s.back? n).bind fun s => p.run s some
    match found, wanted with
    | some t, true => next { s with groups := t.groups }
    | none, false => next s
    | _, _ => none
  | .atomic p, s, next => (p.run s some).bind next
  | .ifGroup number yes no, s, next =>
    if (s.group? number).isSome then yes.run s next else no.run s next

/-- **Whether a text starts with a match of a pattern.** -/
def matchesStart (p : Pattern) (s : String) : Bool := (p.run (.start s.toList) some).isSome

end LoginGate.Pattern
