/-!
# Text/Blank — the blank characters and trimming

The blanks are the separators and the controls that end lines or divide records, over all of
Unicode. Trimming removes them from both ends of a text and nothing else.
-/

namespace LoginGate.Text

/-- A white space of any script, a line end or one of the four record dividers. -/
def isBlank (c : Char) : Bool :=
  let n := c.toNat
  (0x09 ≤ n && n ≤ 0x0d) || (0x1c ≤ n && n ≤ 0x20) || n == 0x85 || n == 0xa0 || n == 0x1680 ||
    (0x2000 ≤ n && n ≤ 0x200a) || n == 0x2028 || n == 0x2029 || n == 0x202f || n == 0x205f ||
    n == 0x3000

/-- Drop the characters of a class from both ends. -/
def trimWhile (p : Char → Bool) (s : List Char) : List Char :=
  ((s.dropWhile p).reverse.dropWhile p).reverse

/-- Drop the blanks from both ends. -/
def trim (s : List Char) : List Char := trimWhile isBlank s

@[simp] theorem trimWhile_nil (p : Char → Bool) : trimWhile p [] = [] := rfl

/-- **Trimming leaves alone a text that neither starts nor ends in the class.** -/
theorem trimWhile_eq_self {p : Char → Bool} {s : List Char}
    (hhead : ∀ c ∈ s.head?, p c = false) (hlast : ∀ c ∈ s.getLast?, p c = false) :
    trimWhile p s = s := by
  have hd : ∀ l : List Char, (∀ c ∈ l.head?, p c = false) → l.dropWhile p = l := by
    intro l hl
    cases l with
    | nil => rfl
    | cons a r => simp [hl a (by simp)]
  rw [trimWhile, hd s hhead, hd s.reverse (by simpa using hlast), List.reverse_reverse]

end LoginGate.Text
