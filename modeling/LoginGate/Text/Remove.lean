/-!
# Text/Remove — taking words and characters out of a text
-/

namespace LoginGate.Text

/-- Drop the next `skip` characters, and from there on every occurrence of a word, scanning from
left to right and never looking back into what remains. -/
def removeFrom (word : List Char) : (skip : Nat) → List Char → List Char
  | _, [] => []
  | skip + 1, _ :: rest => removeFrom word skip rest
  | 0, c :: rest =>
    if !word.isEmpty && word.isPrefixOf (c :: rest) then removeFrom word (word.length - 1) rest
    else c :: removeFrom word 0 rest

/-- **Every occurrence of a word taken out**, in one scan. -/
def removeAll (word text : List Char) : List Char := removeFrom word 0 text

/-- **A text without the word's first letter stays as it is.** -/
theorem removeAll_eq_self {c : Char} {word text : List Char} (h : c ∉ text) :
    removeAll (c :: word) text = text := by
  induction text with
  | nil => rfl
  | cons d rest ih =>
    simp only [List.mem_cons, not_or] at h
    have : (c :: word).isPrefixOf (d :: rest) = false := by
      simp [List.isPrefixOf, h.1]
    simp only [removeAll, removeFrom, this, Bool.and_false, Bool.false_eq_true, if_false]
    exact congrArg (d :: ·) (ih h.2)

end LoginGate.Text
