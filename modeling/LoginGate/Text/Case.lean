import LoginGate.Text.CaseTable

/-!
# Text/Case — letter case over all of Unicode

Upper case, lower case, title case, and the folded form in which letter case no longer shows. A
capital sigma at the end of a word becomes the small final sigma; every other letter is mapped by
itself, whatever stands beside it.
-/

namespace LoginGate.Text

/-- The characters that an expansion table gives to one character. -/
def expansion? (table : List (Nat × List Nat)) (c : Char) : Option (List Char) :=
  (table.find? fun entry => entry.1 == c.toNat).map fun entry => entry.2.map Char.ofNat

/-- The upper-case form of a letter, which can be several letters. -/
def upperLetters (c : Char) : List Char :=
  if c.toNat < 0x80 then [c.toUpper]
  else
    (expansion? upperExpansions c).getD
      [Char.ofNat ((CaseRun.find? upperRuns c.toNat).getD c.toNat)]

/-- The one letter that is the lower-case form of a letter. -/
def lowerLetter (c : Char) : Char :=
  if c.toNat < 0x80 then c.toLower
  else if c = 'İ' then 'i'
  else Char.ofNat ((CaseRun.find? lowerRuns c.toNat).getD c.toNat)

/-- The lower-case form of a letter; the dot of a capital letter stays. -/
def lowerLetters (c : Char) : List Char := if c = 'İ' then ['i', '\u0307'] else [lowerLetter c]

/-- The form of a letter at the start of a word. -/
def titleLetters (c : Char) : List Char :=
  let n := c.toNat
  if n < 0x80 then [c.toUpper]
  else if 0x1c4 ≤ n ∧ n ≤ 0x1cc then [Char.ofNat (n - (n - 0x1c4) % 3 + 1)]
  else if 0x1f1 ≤ n ∧ n ≤ 0x1f3 then ['ǲ']
  else if 0x10d0 ≤ n ∧ n ≤ 0x10ff then [c]
  else if 0x1f80 ≤ n ∧ n ≤ 0x1faf then [Char.ofNat (n ||| 8)]
  else (expansion? titleExpansions c).getD (upperLetters c)

/-- Whether a letter has a case. -/
def isCased (c : Char) : Bool := insideCuts casedCuts c.toNat

/-- Whether a character does not separate the letters of a word. -/
def isCaseIgnorable (c : Char) : Bool := insideCuts caseIgnorableCuts c.toNat

/-- Upper case of a text. -/
def upper (s : List Char) : List Char := s.flatMap upperLetters

/-- Whether the nearest letter of a text is a cased one. -/
def meetsCased (s : List Char) : Bool := (s.dropWhile isCaseIgnorable).head?.any isCased

/-- The lower-case form of a letter between its left neighbours, nearest first, and its right ones.
-/
def lowerBetween (before : List Char) (c : Char) (after : List Char) : List Char :=
  if c = 'Σ' then [if meetsCased before && !meetsCased after then 'ς' else 'σ']
  else lowerLetters c

/-- Lower case of what follows some text, whose characters are given nearest first. -/
def lowerAfter (before : List Char) : List Char → List Char
  | [] => []
  | c :: rest => lowerBetween before c rest ++ lowerAfter (c :: before) rest

/-- Lower case of a text. -/
def lower (s : List Char) : List Char := lowerAfter [] s

/-- A word with an upper-case first letter and lower-case others. -/
def capitalize : List Char → List Char
  | [] => []
  | c :: rest => titleLetters c ++ lowerAfter [c] rest

/-- Title case of what follows some text: a letter right behind a cased one is in lower case. -/
def titleAfter (before : List Char) : List Char → List Char
  | [] => []
  | c :: rest =>
    (if before.head?.any isCased then lowerBetween before c rest else titleLetters c) ++
      titleAfter (c :: before) rest

/-- A text in which every word starts with a capital letter. -/
def title (s : List Char) : List Char := titleAfter [] s

/-- Whether a letter is one of a syllabary that folds to its capital letters. -/
def foldsToCapital (c : Char) : Bool :=
  let n := c.toNat
  (0x13a0 ≤ n && n ≤ 0x13fd) || (0xab70 ≤ n && n ≤ 0xabbf)

/-- The form of a character in which letter case no longer shows. -/
def foldLetters (c : Char) : List Char :=
  if c = 'ı' then [c]
  else if c = 'ẞ' then ['s', 's']
  else if foldsToCapital c then upperLetters c
  else (upperLetters c).flatMap lowerLetters

/-- **Two texts are the same up to letter case iff their folded forms agree.** -/
def fold (s : List Char) : List Char := s.flatMap foldLetters

/-- Whether two characters are forms of one letter: their small forms have the same capital form. -/
def sameLetter (c d : Char) : Bool := upperLetters (lowerLetter c) == upperLetters (lowerLetter d)

/-- The characters with a given capital form, itself among them. -/
def withUpper (capital : List Char) : List Char :=
  match capital with
  | [c] => c :: (CaseRun.sources upperRuns c.toNat).map Char.ofNat
  | _ =>
    let codes := capital.map Char.toNat
    (upperExpansions.filter (·.2 == codes)).map fun entry => Char.ofNat entry.1

/-- **All forms of a letter.** -/
def letterForms (c : Char) : List Char :=
  let small := withUpper (upperLetters (lowerLetter c))
  let capital := small.flatMap fun d => (CaseRun.sources lowerRuns d.toNat).map Char.ofNat
  (c :: 'İ' :: small ++ capital).filter (sameLetter c)

/-- Equality up to letter case. -/
def sameFolded (s t : String) : Bool := fold s.toList == fold t.toList

end LoginGate.Text
