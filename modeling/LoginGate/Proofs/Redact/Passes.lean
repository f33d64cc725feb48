import LoginGate.Redact.Rules
import Mathlib.Data.List.Basic

/-!
# Proofs/Redact/Passes — what a pass makes of a text

A match leaves a lead as it is, puts a veil in place of the piece behind it, and leaves a tail. So
what a pass makes of a text is the text itself with pieces veiled. `Passed` follows the pass match
by match; `Masked` forgets the pass and keeps the pieces, each with all that stands in front of it.

What holds of every place of a text is carried over to what a pass makes of it by looking at one
place at a time: up to the first veil behind it the two texts are the same.
-/

namespace LoginGate.Redact

/-- How a match may be taken apart: lead, piece, veil, tail, and what follows. -/
abbrev Cut := (lead gone veil tail rest : List Char) → Prop

/-- **A match, taken apart.** -/
inductive Veils (D : Cut) : List Char → Match → Prop
  | mk (lead gone veil tail rest : List Char) (left : gone ≠ [])
      (cut : D lead gone veil tail rest) :
      Veils D (lead ++ (gone ++ (tail ++ rest)))
        ⟨(lead ++ (gone ++ tail)).length, lead ++ (veil ++ tail)⟩

/-- **A pass**, from behind `left` on: a character is copied where no match starts, and a match is
passed over as a whole. -/
inductive Passed (rule : Rule) (D : Cut) : (left : List Char) → List Char → List Char → Prop
  | nil {left} : Passed rule D left [] []
  | keep {left c s t} (none : rule left.getLast? (c :: s) = none) :
      Passed rule D (left ++ [c]) s t → Passed rule D left (c :: s) (c :: t)
  | cut {left lead gone veil tail s t} (cut : D lead gone veil tail s) :
      Passed rule D (left ++ (lead ++ (gone ++ tail))) s t →
        Passed rule D left (lead ++ (gone ++ (tail ++ s))) (lead ++ (veil ++ (tail ++ t)))

/-- A condition on a piece: it sees all that stands in front of the piece, the piece, its veil, and
what follows. -/
abbrev Piece := (left gone veil rest : List Char) → Prop

/-- **A text with pieces veiled**, from behind `left` on. -/
inductive Masked (C : Piece) : (left : List Char) → List Char → List Char → Prop
  | nil {left} : Masked C left [] []
  | keep {left c s t} : Masked C (left ++ [c]) s t → Masked C left (c :: s) (c :: t)
  | cut {left gone veil s t} (cut : C left gone veil s) :
      Masked C (left ++ gone) s t → Masked C left (gone ++ s) (veil ++ t)

variable {rule : Rule} {D : Cut} {C : Piece} {left s t : List Char} {before : Option Char}

/-! ## Every pass is one -/

theorem getLast?_cons_or (c : Char) (u : List Char) (before : Option Char) :
    (c :: u).getLast?.or before = u.getLast?.or (some c) := by
  cases u with
  | nil => rfl
  | cons d u =>
    have left : d :: u ≠ [] := List.cons_ne_nil d u
    rw [List.getLast?_cons_of_ne_nil left, List.getLast?_eq_some_getLast left, Option.some_or,
      Option.some_or]

theorem replaceFrom_of_match {x rest r : List Char} (left : x ≠ [])
    (h : rule before (x ++ rest) = some ⟨x.length, r⟩) :
    replaceFrom rule before 0 (x ++ rest) =
      r ++ replaceFrom rule (x.getLast?.or before) 0 rest := by
  obtain ⟨c, x, rfl⟩ := List.exists_cons_of_ne_nil left
  rw [List.cons_append] at h ⊢
  have passed : (x ++ rest).take x.length = x ∧ (x ++ rest).drop x.length = rest :=
    ⟨List.take_left, List.drop_left⟩
  rw [replaceFrom_of_some h, List.length_cons, Nat.add_sub_cancel, replaceFrom_skip, passed.1,
    passed.2, getLast?_cons_or]

/-- **A pass goes through a text match by match.** -/
theorem passed_replaceFrom (veils : ∀ {before s m}, rule before s = some m → Veils D s m)
    (left s : List Char) : Passed rule D left s (replaceFrom rule left.getLast? 0 s) := by
  induction h : s.length using Nat.strongRecOn generalizing left s with
  | ind n ih =>
    subst h
    cases s with
    | nil => exact .nil
    | cons c s =>
      have later (left : List Char) {rest : List Char} (shorter : rest.length < (c :: s).length) :=
        ih rest.length shorter left rest rfl
      cases seen : rule left.getLast? (c :: s) with
      | none =>
        have rest := later (left ++ [c]) (Nat.lt_succ_self s.length)
        rw [List.getLast?_concat] at rest
        rw [replaceFrom_of_none seen]
        exact .keep seen rest
      | some m =>
        generalize c :: s = whole at *
        cases veils seen with
        | @mk lead gone veil tail rest nonempty cut =>
          have piece : lead ++ (gone ++ tail) ≠ [] := by simp [nonempty]
          have split : lead ++ (gone ++ (tail ++ rest)) = lead ++ (gone ++ tail) ++ rest := by simp
          have shorter : rest.length < (lead ++ (gone ++ (tail ++ rest))).length := by
            have := List.length_pos_iff.mpr piece
            rw [split, List.length_append]
            omega
          have rest := later (left ++ (lead ++ (gone ++ tail))) shorter
          rw [List.getLast?_append] at rest
          have out := replaceFrom_of_match piece (split ▸ seen)
          rw [split, out, ← split]
          simpa using Passed.cut cut rest

/-! ## The pieces alone -/

/-- What is copied stands in front of what follows. -/
theorem Masked.keep_append {u : List Char} (h : Masked C (left ++ u) s t) :
    Masked C left (u ++ s) (u ++ t) := by
  induction u generalizing left with
  | nil => simpa using h
  | cons c u ih => exact .keep (ih (by simpa using h))

/-- The pieces that are cut out. -/
def pieces (D : Cut) : Piece := fun left gone veil rest => ∃ front lead tail behind,
  left = front ++ lead ∧ rest = tail ++ behind ∧ D lead gone veil tail behind

/-- **The pieces that a pass veils.** -/
theorem Passed.masked (h : Passed rule D left s t) : Masked (pieces D) left s t := by
  induction h with
  | nil => exact .nil
  | keep _ _ ih => exact .keep ih
  | cut cut _ ih =>
    refine .keep_append (.cut ⟨_, _, _, _, rfl, rfl, cut⟩ (.keep_append ?_))
    simpa using ih

theorem Masked.imp {C' : Piece} (h : Masked C left s t)
    (imp : ∀ {left gone veil rest}, C left gone veil rest → C' left gone veil rest) :
    Masked C' left s t := by
  induction h with
  | nil => exact .nil
  | keep _ ih => exact .keep ih
  | cut cut _ ih => exact .cut (imp cut) ih

/-- **Two texts are the same up to the first veil.** -/
theorem Masked.split (h : Masked C left s t) : s = t ∨ ∃ v gone veil s' t',
    s = v ++ (gone ++ s') ∧ t = v ++ (veil ++ t') ∧ C (left ++ v) gone veil s' ∧
      Masked C (left ++ v ++ gone) s' t' := by
  induction h with
  | nil => exact .inl rfl
  | @keep left c s t _ ih =>
    obtain rfl | ⟨v, gone, veil, s', t', rfl, rfl, cut, rest⟩ := ih
    · exact .inl rfl
    · refine .inr ⟨c :: v, gone, veil, s', t', rfl, rfl, ?_, ?_⟩
      · simpa using cut
      · simpa using rest
  | @cut left gone veil s t cut rest =>
    exact .inr ⟨[], gone, veil, s, t, rfl, rfl, by simpa using cut, by simpa using rest⟩

/-- So are two texts whose first character is kept, and the first veil is behind that. -/
theorem Masked.split_cons {D : Cut} {c : Char} (h : Masked (pieces D) (left ++ [c]) s t) :
    s = t ∨ ∃ v front lead gone veil tail behind t', v ≠ [] ∧
      c :: s = v ++ (gone ++ (tail ++ behind)) ∧ c :: t = v ++ (veil ++ t') ∧
      left ++ v = front ++ lead ∧ D lead gone veil tail behind ∧
      Masked (pieces D) (left ++ v ++ gone) (tail ++ behind) t' := by
  refine h.split.imp_right fun ⟨v, gone, veil, s', t', before, after, piece, later⟩ => ?_
  obtain ⟨front, lead, tail, behind, place, rfl, cut⟩ := piece
  rw [List.append_assoc left, List.singleton_append] at place later
  exact ⟨c :: v, front, lead, gone, veil, tail, behind, t', List.cons_ne_nil c v,
    congrArg (c :: ·) before, congrArg (c :: ·) after, place, cut, later⟩

/-- A character is left for what is put in alone. -/
theorem Masked.not_mem {c : Char} (h : Masked C left s t)
    (veils : ∀ {left gone veil rest}, C left gone veil rest → c ∉ veil) (absent : c ∉ s) :
    c ∉ t := by
  induction h with
  | nil => exact absent
  | keep _ ih =>
    rw [List.mem_cons, not_or] at absent ⊢
    exact absent.imp_right ih
  | cut cut _ ih =>
    exact List.not_mem_append (veils cut) (ih fun mem => absent (List.mem_append_right _ mem))

/-! ## Every place of a text -/

/-- **Everywhere in a text**: of every place, by the character before it and the text from there. -/
def Everywhere (P : Option Char → List Char → Prop) : (before : Option Char) → List Char → Prop
  | _, [] => True
  | before, c :: s => P before (c :: s) ∧ Everywhere P (some c) s

section Everywhere
variable {P Q : Option Char → List Char → Prop}

theorem Everywhere.imp₂ {R : Option Char → List Char → Prop} (hP : Everywhere P before s)
    (hQ : Everywhere Q before s) (imp : ∀ {before s}, P before s → Q before s → R before s) :
    Everywhere R before s := by
  induction s generalizing before with
  | nil => trivial
  | cons c s ih => exact ⟨imp hP.1 hQ.1, ih hP.2 hQ.2⟩

theorem Everywhere.imp (h : Everywhere P before s) (imp : ∀ {before s}, P before s → Q before s) :
    Everywhere Q before s :=
  h.imp₂ h fun h _ => imp h

theorem everywhere_append {u : List Char} : Everywhere P before (u ++ s) ↔
    (∀ u₁ u₂, u = u₁ ++ u₂ → u₂ ≠ [] → P (u₁.getLast?.or before) (u₂ ++ s)) ∧
      Everywhere P (u.getLast?.or before) s := by
  induction u generalizing before with
  | nil =>
    refine ⟨fun h => ⟨fun u₁ u₂ split left => ?_, h⟩, And.right⟩
    exact absurd (List.append_eq_nil_iff.mp split.symm).2 left
  | cons c u ih =>
    rw [List.cons_append, Everywhere, ih, getLast?_cons_or]
    constructor
    · rintro ⟨head, inside, rest⟩
      refine ⟨fun u₁ u₂ split left => ?_, rest⟩
      cases u₁ with
      | nil =>
        obtain rfl : c :: u = u₂ := split
        exact head
      | cons d u₁ =>
        obtain ⟨rfl, rfl⟩ := List.cons_eq_cons.mp split
        exact getLast?_cons_or .. ▸ inside u₁ u₂ rfl left
    · rintro ⟨inside, rest⟩
      refine ⟨inside [] (c :: u) rfl (List.cons_ne_nil c u), fun u₁ u₂ split left => ?_, rest⟩
      obtain rfl := split
      exact getLast?_cons_or .. ▸ inside (c :: u₁) u₂ rfl left

/-- The condition holds at every place of the text. -/
theorem Everywhere.at_append {u : List Char} (h : Everywhere P before (u ++ s)) (left : s ≠ []) :
    P (u.getLast?.or before) s := by
  obtain ⟨c, s, rfl⟩ := List.exists_cons_of_ne_nil left
  exact (everywhere_append.mp h).2.1

theorem everywhere_of_suffix (h : ∀ before u, u ≠ [] → u <:+ s → P before u) :
    Everywhere P before s := by
  induction s generalizing before with
  | nil => trivial
  | cons c s ih =>
    exact ⟨h before (c :: s) (List.cons_ne_nil c s) List.suffix_rfl, ih fun before u left suffix =>
      h before u left (suffix.trans (List.suffix_cons c s))⟩

/-- A part of a text in which the condition holds whatever stands before it. -/
theorem Everywhere.append {u : List Char}
    (inside : ∀ before v, v ≠ [] → v <:+ u → P before (v ++ s))
    (rest : Everywhere P (u.getLast?.or before) s) : Everywhere P before (u ++ s) :=
  everywhere_append.mpr ⟨fun u₁ u₂ split left => inside _ u₂ left ⟨u₁, split.symm⟩, rest⟩

/-- **A rule is idle** at a place: a match, if there is one, is put in as it was. -/
def Idle (rule : Rule) (before : Option Char) (s : List Char) : Prop :=
  ∀ m, rule before s = some m → ∃ x rest, s = x ++ rest ∧ x ≠ [] ∧ m = ⟨x.length, x⟩

/-- **A rule that is idle everywhere changes nothing.** -/
theorem replaceFrom_of_idle (h : Everywhere (Idle rule) before s) :
    replaceFrom rule before 0 s = s := by
  induction size : s.length using Nat.strongRecOn generalizing before s with
  | ind n ih =>
    subst size
    cases s with
    | nil => rfl
    | cons c s =>
      cases seen : rule before (c :: s) with
      | none => rw [replaceFrom_of_none seen, ih s.length (Nat.lt_succ_self _) h.2 rfl]
      | some m =>
        obtain ⟨x, rest, split, left, rfl⟩ := h.1 m seen
        rw [split] at h seen ⊢
        have shorter : rest.length < (c :: s).length := by
          have := List.length_pos_iff.mpr left
          rw [split, List.length_append]
          omega
        rw [replaceFrom_of_match left seen, ih rest.length shorter (everywhere_append.mp h).2 rfl]

/-- **A seam**: no token goes on here. -/
def Seam (s : List Char) : Prop := ∀ c ∈ s.head?, isTokenChar c = false

/-- **From a text to the text with pieces veiled**, place by place. What stands before a place is
the same, unless a piece ends there. -/
theorem Masked.everywhere (h : Masked C left s t) (all : Everywhere Q left.getLast? s)
    (seam : before = left.getLast? ∨ Seam s)
    (behind : ∀ {left gone veil s}, C left gone veil s → Seam s)
    (kept : ∀ {left before c s t}, Masked C (left ++ [c]) s t →
      before = left.getLast? ∨ isTokenChar c = false → Q left.getLast? (c :: s) → P before (c :: t))
    (inside : ∀ {left gone veil s before u t}, C left gone veil s → u ≠ [] → u <:+ veil →
      P before (u ++ t)) : Everywhere P before t := by
  induction h generalizing before with
  | nil => trivial
  | @keep left c s t rest ih =>
    refine ⟨kept rest (seam.imp_right fun h => h c rfl) all.1, ih ?_ (.inl ?_)⟩
    · simpa using all.2
    · simp
  | cut cut _ ih =>
    refine .append (fun before u left suffix => inside cut left suffix) (ih ?_ (.inr (behind cut)))
    rw [List.getLast?_append]
    exact (everywhere_append.mp all).2

/-- **From a text to what a pass makes of it**, place by place. -/
theorem Passed.everywhere (h : Passed rule D left s t) (seam : before = left.getLast? ∨ Seam s)
    (behind : ∀ {lead gone veil tail s}, D lead gone veil tail s → Seam (tail ++ s))
    (kept : ∀ {left before c s t}, Passed rule D (left ++ [c]) s t →
      before = left.getLast? ∨ isTokenChar c = false → rule left.getLast? (c :: s) = none →
      P before (c :: t))
    (opening : ∀ {left lead gone veil tail s t before u}, D lead gone veil tail s →
      Passed rule D left s t → u ≠ [] → u <:+ lead → P before (u ++ (veil ++ (tail ++ t))))
    (inside : ∀ {lead gone veil tail s t before u}, D lead gone veil tail s → u ≠ [] → u <:+ veil →
      P before (u ++ (tail ++ t)))
    (closing : ∀ {lead gone veil tail s t before u}, D lead gone veil tail s → u ≠ [] → u <:+ tail →
      P before (u ++ t)) : Everywhere P before t := by
  induction h generalizing before with
  | nil => trivial
  | keep none rest ih =>
    exact ⟨kept rest (seam.imp_right fun h => h _ rfl) none, ih (.inl (by simp))⟩
  | @cut left lead gone veil tail s t cut rest ih =>
    refine .append (fun before u left suffix => opening cut rest left suffix) (.append
      (fun before u left suffix => inside cut left suffix) (.append
        (fun before u left suffix => closing cut left suffix) (ih ?_)))
    cases tail with
    | nil => exact .inr (behind cut)
    | cons c tail =>
      have last := List.getLast?_eq_some_getLast (List.cons_ne_nil c tail)
      simp only [List.getLast?_append, last, Option.some_or, true_or]

end Everywhere

end LoginGate.Redact
