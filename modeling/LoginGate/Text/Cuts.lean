/-!
# Text/Cuts — a set of code points, given by its sorted cut points

The tables of the Unicode classes are long runs of neighbouring code points. Each is kept as the
increasing list of the points where membership changes, starting outside: `[a, b, c, d]` is the set
`[a, b) ∪ [c, d)`.
-/

namespace LoginGate.Text

/-- **A point lies inside iff an odd number of cut points is at most it.** -/
def insideCuts : List Nat → Nat → Bool
  | [], _ => false
  | cut :: rest, n => if n < cut then false else !insideCuts rest n

theorem insideCuts_of_lt {cut n : Nat} {rest : List Nat} (h : n < cut) :
    insideCuts (cut :: rest) n = false := by
  simp [insideCuts, h]

theorem insideCuts_of_le {cut n : Nat} {rest : List Nat} (h : cut ≤ n) :
    insideCuts (cut :: rest) n = !insideCuts rest n := by
  simp [insideCuts, Nat.not_lt.mpr h]

end LoginGate.Text
