/-!
# Redact/Scan — replacing every match of a rule

A rule looks at one place of a text and says whether a match starts there, how long it is, and what
takes its place. `replaceAll` goes through a text once, from left to right: a match is replaced and
passed over, and what replaces it is not looked at again.
-/

namespace LoginGate.Redact

/-- A match: its length and what takes its place. -/
structure Match where
  size : Nat
  replacement : List Char
  deriving DecidableEq

/-- A rule: does a match start here? It sees the character before the place and the text from there.
-/
abbrev Rule := Option Char → List Char → Option Match

/-- Go on behind a match: the next `skip` characters belong to it. -/
def replaceFrom (rule : Rule) : (before : Option Char) → (skip : Nat) → List Char → List Char
  | _, _, [] => []
  | _, skip + 1, c :: rest => replaceFrom rule (some c) skip rest
  | before, 0, c :: rest =>
    match rule before (c :: rest) with
    | some m => m.replacement ++ replaceFrom rule (some c) (m.size - 1) rest
    | none => c :: replaceFrom rule (some c) 0 rest

/-- **Every match replaced**, the leftmost first. -/
def replaceAll (rule : Rule) (text : List Char) : List Char := replaceFrom rule none 0 text

@[simp] theorem replaceFrom_nil (rule : Rule) (before : Option Char) (skip : Nat) :
    replaceFrom rule before skip [] = [] := by
  cases skip <;> rfl

theorem replaceFrom_of_none {rule : Rule} {before : Option Char} {c : Char} {rest : List Char}
    (h : rule before (c :: rest) = none) :
    replaceFrom rule before 0 (c :: rest) = c :: replaceFrom rule (some c) 0 rest := by
  simp [replaceFrom, h]

theorem replaceFrom_of_some {rule : Rule} {before : Option Char} {c : Char} {rest : List Char}
    {m : Match} (h : rule before (c :: rest) = some m) :
    replaceFrom rule before 0 (c :: rest) =
      m.replacement ++ replaceFrom rule (some c) (m.size - 1) rest := by
  simp [replaceFrom, h]

/-- **Skipping is dropping**: what is passed over leaves only its last character behind, as the
neighbour of what follows. -/
theorem replaceFrom_skip (rule : Rule) (before : Option Char) (skip : Nat) (s : List Char) :
    replaceFrom rule before skip s =
      replaceFrom rule ((s.take skip).getLast?.or before) 0 (s.drop skip) := by
  induction s generalizing before skip with
  | nil => simp
  | cons c rest ih =>
    cases skip with
    | zero => simp
    | succ n =>
      rw [replaceFrom, ih]
      cases h : (rest.take n).getLast? with
      | none =>
        have hnil : rest.take n = [] := List.getLast?_eq_none_iff.mp h
        simp [hnil]
      | some d =>
        have hne : rest.take n ≠ [] := by
          intro hnil
          simp [hnil] at h
        rw [List.take_succ_cons, List.getLast?_cons_of_ne_nil hne, h]
        rfl

end LoginGate.Redact
