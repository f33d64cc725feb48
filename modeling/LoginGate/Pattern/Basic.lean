import LoginGate.Text.Blank
import LoginGate.Text.Case
import LoginGate.Text.Digit
import LoginGate.Text.Word

/-!
# Pattern/Basic — what a pattern consists of

A pattern describes texts: single characters, places between them, sequences, choices, repetitions,
groups that remember what they have matched, and conditions on what lies ahead or behind. How
letters and places are judged is decided part by part, by the mode that a part is read in.
-/

namespace LoginGate.Pattern

/-- How letters and places are judged. -/
structure Mode where
  ignoreCase : Bool := false
  /-- Whether the ends of a line count like the ends of the text. -/
  byLine : Bool := false
  /-- Whether the dot also stands for the end of a line. -/
  dotAll : Bool := false
  /-- Whether blanks and comments may stand between the parts. -/
  spaced : Bool := false
  /-- Whether classes and letter case are those of ASCII. -/
  asciiOnly : Bool := false
  /-- Whether nothing may be repeated. -/
  unrepeated : Bool := false
  deriving DecidableEq, Repr

/-- A class of characters. -/
inductive Kind where
  | digit
  | space
  | word
  deriving DecidableEq, Repr

/-- Whether a character is in a class. -/
def Kind.holds (k : Kind) (asciiOnly : Bool) (c : Char) : Bool :=
  match k, asciiOnly with
  | .digit, true => c.isDigit
  | .digit, false => (Text.decimalDigit? c).isSome
  | .space, true => c == ' ' || (9 ≤ c.toNat && c.toNat ≤ 13)
  | .space, false => Text.isBlank c
  | .word, true => c.isAlphanum || c == '_'
  | .word, false => Text.isWord c

/-- Some characters: those between two code points, or a class or its complement. -/
inductive Letters where
  | range (low high : Nat)
  | kind (k : Kind) (negated : Bool)
  deriving DecidableEq, Repr

namespace Letters

/-- The character of one code point. -/
def one (c : Char) : Letters := .range c.toNat c.toNat

/-- The forms of a character that count as the same letter. -/
def forms (mode : Mode) (c : Char) : List Char :=
  if !mode.ignoreCase then [c]
  else if mode.asciiOnly then [c, c.toLower, c.toUpper]
  else Text.letterForms c

/-- Whether a character is one of them, in one of its forms. -/
def holds (mode : Mode) (c : Char) : Letters → Bool
  | .range low high => (forms mode c).any fun d => low ≤ d.toNat && d.toNat ≤ high
  | .kind k negated => k.holds mode.asciiOnly c != negated

end Letters

/-- A condition on a single character. -/
structure Test where
  negated : Bool
  letters : List Letters
  mode : Mode
  deriving DecidableEq, Repr

/-- Whether a character meets a condition. -/
def Test.holds (t : Test) (c : Char) : Bool := t.letters.any (·.holds t.mode c) != t.negated

/-- A place between characters. -/
inductive Place where
  | textStart
  | lineStart
  | textEnd
  /-- The end of the text, or the end of a line that ends the text. -/
  | lastLineEnd
  | lineEnd
  /-- Where a word starts or ends, or anywhere else. -/
  | wordEdge (asciiOnly negated : Bool)
  deriving DecidableEq, Repr

/-- Which number of repetitions is tried first, and whether others are tried at all. -/
inductive Manner where
  | most
  | fewest
  | mostOnly
  deriving DecidableEq, Repr

end LoginGate.Pattern

namespace LoginGate

open Pattern in
/-- **A pattern.** Groups are numbered from one. -/
inductive Pattern where
  | empty
  | char (t : Test)
  | place (p : Place)
  | seq (first second : Pattern)
  | choice (first second : Pattern)
  | group (number : Option Nat) (body : Pattern)
  | many (manner : Manner) (least : Nat) (most : Option Nat) (body : Pattern)
  /-- What a group has matched, again. -/
  | again (number : Nat) (mode : Mode)
  /-- A condition on what follows, or on as many characters as given before. -/
  | look (behind : Option Nat) (wanted : Bool) (body : Pattern)
  /-- The first way to match, for good. -/
  | atomic (body : Pattern)
  /-- A choice by whether a group has matched. -/
  | ifGroup (number : Nat) (yes no : Pattern)
  deriving Repr

namespace Pattern

/-- Widths from this one on count as one. -/
def widthCap : Nat := 0x10000000000000000

/-- **The least and the greatest width of a match**, given those of groups. -/
def width (groups : Nat → Nat × Nat) : Pattern → Nat × Nat
  | .empty | .place _ | .look _ _ _ => (0, 0)
  | .char _ => (1, 1)
  | .seq a b => capped ((a.width groups).1 + (b.width groups).1)
      ((a.width groups).2 + (b.width groups).2)
  | .choice a b => (min (a.width groups).1 (b.width groups).1,
      max (a.width groups).2 (b.width groups).2)
  | .group _ p | .atomic p => p.width groups
  | .many _ least most p =>
    capped ((p.width groups).1 * least)
      (match most with
       | some n => (p.width groups).2 * n
       | none => if (p.width groups).2 = 0 then 0 else widthCap)
  | .again number _ => groups number
  | .ifGroup _ yes no => (min (yes.width groups).1 (no.width groups).1,
      max (yes.width groups).2 (no.width groups).2)
where
  /-- Two widths, capped. -/
  capped (least most : Nat) : Nat × Nat := (min least widthCap, min most widthCap)

/-- Whether a pattern is a place, which cannot be repeated. -/
def isPlace : Pattern → Bool
  | .place _ => true
  | _ => false

/-- Whether a pattern is a repetition, which cannot be repeated again. -/
def isMany : Pattern → Bool
  | .many _ _ _ _ => true
  | _ => false

end Pattern
end LoginGate
