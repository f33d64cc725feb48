import LoginGate.Proofs.Redact.Parts

/-!
# Proofs/Redact/Wear — every change wears a text down

A pass that changes a text takes out a character that no cover holds, or masks what stands between
two such characters: all of it, or from its start, or up to its end. What is masked in this way is
the mask, or has a star where a letter was, and no later pass brings that back. So there is a number
that every change makes smaller (`freshness`): one round after the other comes to an end, and a
round changes nothing only if no rule does.
-/

namespace LoginGate.Redact

open Text

variable {a b left gone veil rest s t : List Char}

/-! ## How fresh a text is -/

/-- The characters of which covers are made. -/
def inCovers (c : Char) : Bool := covers.flatten.contains c

theorem inCovers_of_mem (h : veil ∈ covers) : ∀ c ∈ veil, inCovers c = true :=
  fun _ mem => List.contains_iff_mem.mpr (List.mem_flatten.mpr ⟨veil, h, mem⟩)

/-- An end of a stretch is fresh if it is no star. -/
def freshEnd : Option Char → Nat
  | some c => if c = '*' then 0 else 1
  | none => 0

/-- **How fresh a stretch of covers is.** The mask is not fresh at all. What else stands there may
be masked once more, and may have fresh ends. -/
def freshStretch (a : List Char) : Nat :=
  if a = mask then 0 else 1 + freshEnd a.head? + freshEnd a.getLast?

/-- **How fresh a text is**, behind a stretch `a`: what no cover holds ends the stretch, and counts
for more than any. -/
def freshness : (a : List Char) → List Char → Nat
  | a, [] => freshStretch a
  | a, c :: s =>
    if inCovers c then freshness (a ++ [c]) s else freshStretch a + 4 + freshness [] s

theorem freshEnd_le (c : Option Char) : freshEnd c ≤ 1 := by
  unfold freshEnd
  split
  · split <;> decide
  · decide

theorem freshEnd_of_ne {c : Char} (letter : c ≠ '*') : freshEnd (some c) = 1 := if_neg letter

theorem freshStretch_le (a : List Char) : freshStretch a ≤ 3 := by
  have first := freshEnd_le a.head?
  have last := freshEnd_le a.getLast?
  unfold freshStretch
  split <;> omega

/-- A stretch is less fresh if its ends are, unless it has been the mask. -/
theorem freshStretch_lt (unmasked : a ≠ mask)
    (less : freshEnd b.head? + freshEnd b.getLast? < freshEnd a.head? + freshEnd a.getLast?) :
    freshStretch b < freshStretch a := by
  rw [freshStretch, freshStretch, if_neg unmasked]
  split <;> omega

/-- The mask starts and ends with a star. -/
theorem ne_mask_of_head {c : Char} (head : a.head? = some c) (letter : c ≠ '*') : a ≠ mask := by
  rintro rfl
  exact letter (Option.some.inj head).symm

theorem ne_mask_of_getLast {c : Char} (last : a.getLast? = some c) (letter : c ≠ '*') :
    a ≠ mask := by
  rintro rfl
  exact letter (Option.some.inj last).symm

theorem freshness_append (inside : ∀ c ∈ gone, inCovers c = true) :
    freshness a (gone ++ s) = freshness (a ++ gone) s := by
  induction gone generalizing a with
  | nil => simp
  | cons c gone ih =>
    obtain ⟨first, later⟩ := List.forall_mem_cons.mp inside
    rw [List.cons_append, freshness, if_pos first, ih later, List.append_assoc,
      List.singleton_append]

/-- What no cover holds counts for more than any stretch. -/
theorem exists_freshness_le (lost : ∃ c ∈ gone, inCovers c = false) (a s : List Char) :
    ∃ a', freshness a' s + 4 ≤ freshness a (gone ++ s) := by
  induction gone generalizing a with
  | nil => exact absurd lost.choose_spec.1 List.not_mem_nil
  | cons d gone ih =>
    rw [List.cons_append, freshness]
    by_cases inside : inCovers d = true
    · obtain ⟨c, mem, lost⟩ := lost
      obtain rfl | mem := List.mem_cons.mp mem
      · exact nomatch lost.symm.trans inside
      · rw [if_pos inside]
        exact ih ⟨c, mem, lost⟩ _
    · rw [if_neg inside]
      by_cases more : ∃ c ∈ gone, inCovers c = false
      · obtain ⟨a', le⟩ := ih more []
        exact ⟨a', by omega⟩
      · have all : ∀ c ∈ gone, inCovers c = true := by simpa using more
        refine ⟨gone, ?_⟩
        rw [freshness_append all, List.nil_append]
        omega

theorem freshness_le (a s : List Char) : freshness a s ≤ 7 * s.length + 3 := by
  induction s generalizing a with
  | nil => exact freshStretch_le a
  | cons c s ih =>
    have stretch := freshStretch_le a
    have first := ih (a ++ [c])
    have later := ih []
    rw [freshness, List.length_cons]
    split <;> omega

/-! ## How a piece wears a text down -/

/-- A stretch ends here. -/
def Bounded (c : Option Char) : Prop := ∀ d ∈ c, inCovers d = false

/-- **A stretch of covers**, or a part of one. -/
structure IsStretch (a : List Char) : Prop where
  nonempty : a ≠ []
  inside : ∀ c ∈ a, inCovers c = true

/-- **How a piece wears a text down**: something is lost that no cover holds; or a stretch is masked
as a whole, or letters at its start are, or letters at its end. -/
inductive Wears : Piece
  | loss {left gone veil rest : List Char} (lost : ∃ c ∈ gone, inCovers c = false)
      (cover : veil ∈ covers) : Wears left gone veil rest
  | whole {left gone rest : List Char} (start : Bounded left.getLast?) (stretch : IsStretch gone)
      (stop : Bounded rest.head?) : Wears left gone mask rest
  | front {left gone rest : List Char} (start : Bounded left.getLast?) (stretch : IsStretch gone)
      (letters : '*' ∉ gone) : Wears left gone mask rest
  | back {left gone rest : List Char} (stretch : IsStretch gone) (letters : '*' ∉ gone)
      (stop : Bounded rest.head?) : Wears left gone "***".toList rest

theorem Wears.cover (wears : Wears left gone veil rest) : veil ∈ covers := by
  cases wears with
  | loss _ cover => exact cover
  | whole => decide
  | front => decide
  | back => decide

/-- What is not lost is a stretch. -/
theorem Wears.of_stretch (cover : veil ∈ covers) (nonempty : gone ≠ [])
    (wears : IsStretch gone → Wears left gone veil rest) : Wears left gone veil rest := by
  by_cases lost : ∃ c ∈ gone, inCovers c = false
  · exact .loss lost cover
  · exact wears ⟨nonempty, by simpa using lost⟩

theorem Wears.nonempty (wears : Wears left gone veil rest) : gone ≠ [] := by
  cases wears with
  | loss lost _ => exact List.ne_nil_of_mem lost.choose_spec.1
  | whole _ stretch _ => exact stretch.nonempty
  | front _ stretch _ => exact stretch.nonempty
  | back stretch _ _ => exact stretch.nonempty

/-- **A stretch is worn**: behind `left`, and with `s` to come, it has become `b` where it has been
`a`. It starts with a star where a letter was and ends no fresher, or it is over. -/
inductive Worn (left s a b : List Char) : Prop
  | front {c : Char} (head : a.head? = some c) (letter : c ≠ '*') (star : b.head? = some '*')
      (last : freshEnd b.getLast? ≤ freshEnd a.getLast?) (within : ¬ Bounded left.getLast?)
  | ended (stop : Bounded s.head?) (less : freshStretch b < freshStretch a)

theorem Worn.lt (worn : Worn left s a b) : freshStretch b < freshStretch a := by
  cases worn with
  | ended _ less => exact less
  | front head letter star last _ =>
    refine freshStretch_lt (ne_mask_of_head head letter) ?_
    rw [head, star, freshEnd_of_ne letter]
    exact Nat.add_lt_add_of_lt_of_le Nat.one_pos last

namespace IsStretch

theorem not_bounded_getLast (stretch : IsStretch gone) (left : List Char) :
    ¬ Bounded (left ++ gone).getLast? := by
  intro bounded
  have last := List.getLast?_eq_some_getLast stretch.nonempty
  rw [List.getLast?_append, last, Option.some_or] at bounded
  exact nomatch (bounded _ rfl).symm.trans (stretch.inside _ (List.getLast_mem stretch.nonempty))

theorem not_bounded_head (stretch : IsStretch gone) (s : List Char) :
    ¬ Bounded (gone ++ s).head? := by
  obtain ⟨nonempty, inside⟩ := stretch
  obtain ⟨c, gone, rfl⟩ := List.exists_cons_of_ne_nil nonempty
  exact fun bounded => nomatch (bounded c rfl).symm.trans (inside c List.mem_cons_self)

/-- Letters at the start of a stretch are masked. -/
theorem worn_front (stretch : IsStretch gone) (letters : '*' ∉ gone) (left s : List Char) :
    Worn (left ++ gone) s gone mask := by
  refine .front (List.head?_eq_some_head stretch.nonempty) (fun star => ?_) rfl (Nat.zero_le _)
    (stretch.not_bounded_getLast left)
  exact letters (star ▸ List.head_mem stretch.nonempty)

/-- Letters at the end of a stretch are veiled. -/
theorem worn_back (stretch : IsStretch gone) (letters : '*' ∉ gone) (stop : Bounded s.head?)
    (less : freshEnd (b ++ "***".toList).head? ≤ freshEnd (a ++ gone).head?) (left : List Char) :
    Worn left s (a ++ gone) (b ++ "***".toList) := by
  have last : (a ++ gone).getLast? = some (gone.getLast stretch.nonempty) := by
    rw [List.getLast?_append, List.getLast?_eq_some_getLast stretch.nonempty, Option.some_or]
  have letter : gone.getLast stretch.nonempty ≠ '*' := fun star =>
    letters (star ▸ List.getLast_mem stretch.nonempty)
  have star : (b ++ "***".toList).getLast? = some '*' := by simp [List.getLast?_append]
  refine .ended stop (freshStretch_lt (ne_mask_of_getLast last letter) ?_)
  rw [last, star, freshEnd_of_ne letter]
  exact Nat.add_lt_add_of_le_of_lt less Nat.one_pos

end IsStretch

/-- **What a pass does to how fresh a text is.** Behind one stretch or another it comes to no more
than the worth of a stretch; behind the same, only a text that is left alone stays as fresh; and
behind a worn stretch every text is less fresh. -/
structure Fades (left s t : List Char) : Prop where
  slack (a b : List Char) : freshness b t ≤ freshness a s + 3
  same (a : List Char) (linked : a ≠ [] → ¬ Bounded left.getLast?) :
    t = s ∨ freshness a t < freshness a s
  worn (a b : List Char) (worn : Worn left s a b) : freshness b t < freshness a s

namespace Fades

theorem nil (left : List Char) : Fades left [] [] :=
  ⟨fun _ b => (freshStretch_le b).trans (Nat.le_add_left ..), fun _ _ => .inl rfl,
    fun _ _ worn => worn.lt⟩

/-- A character of a cover goes on with the stretch. -/
theorem keep_inside {c : Char} (inside : inCovers c = true) (h : Fades (left ++ [c]) s t) :
    Fades left (c :: s) (c :: t) := by
  have within (left : List Char) : ¬ Bounded (left ++ [c]).getLast? :=
    IsStretch.not_bounded_getLast ⟨List.cons_ne_nil c [], by simpa using inside⟩ left
  constructor
  all_goals simp only [freshness, if_pos inside]
  · exact fun a b => h.slack _ _
  · exact fun a _ => (h.same _ fun _ => within left).imp_left (congrArg _)
  · intro a b worn
    refine h.worn _ _ ?_
    cases worn with
    | ended stop _ => exact nomatch (stop c rfl).symm.trans inside
    | front head letter star _ _ =>
      refine .front ?_ letter ?_ ?_ (within left)
      · rw [List.head?_append, head, Option.some_or]
      · rw [List.head?_append, star, Option.some_or]
      · rw [List.getLast?_concat, List.getLast?_concat]

/-- Any other character ends it. -/
theorem keep_outside {c : Char} (outside : inCovers c = false) (h : Fades (left ++ [c]) s t) :
    Fades left (c :: s) (c :: t) := by
  have ends := h.same [] (absurd rfl)
  have le : freshness [] t ≤ freshness [] s := by
    obtain rfl | lt := ends
    · exact Nat.le_refl _
    · exact Nat.le_of_lt lt
  constructor
  all_goals simp only [freshness, if_neg (Bool.eq_false_iff.mp outside)]
  · intro a b
    have := freshStretch_le b
    omega
  · exact fun a _ => ends.imp (congrArg _) fun lt => by omega
  · intro a b worn
    have := worn.lt
    omega

/-- What is lost counts for more than the stretches before and behind. -/
theorem cut_loss (lost : ∃ c ∈ gone, inCovers c = false) (cover : veil ∈ covers)
    (h : Fades (left ++ gone) s t) : Fades left (gone ++ s) (veil ++ t) := by
  have less (a b : List Char) : freshness b (veil ++ t) < freshness a (gone ++ s) := by
    obtain ⟨a', le⟩ := exists_freshness_le lost a s
    have := h.slack a' (b ++ veil)
    rw [freshness_append (inCovers_of_mem cover)]
    omega
  exact ⟨fun a b => (Nat.le_of_lt (less a b)).trans (Nat.le_add_right ..),
    fun a _ => .inr (less a a), fun a b _ => less a b⟩

/-- A part of a stretch is worn, unless it has been the mask. -/
theorem cut_stretch (stretch : IsStretch gone) (wears : Wears left gone veil s)
    (h : Fades (left ++ gone) s t) : Fades left (gone ++ s) (veil ++ t) := by
  have unlost : ¬ ∃ c ∈ gone, inCovers c = false := by simpa using stretch.inside
  have within : ¬ Bounded (left ++ gone).getLast? := stretch.not_bounded_getLast left
  constructor
  all_goals simp only [freshness_append (inCovers_of_mem wears.cover),
    freshness_append stretch.inside]
  · exact fun a b => h.slack _ _
  · intro a linked
    have first (start : Bounded left.getLast?) : a = [] :=
      Decidable.byContradiction fun left => linked left start
    cases wears with
    | loss lost _ => exact absurd lost unlost
    | whole start _ stop =>
      obtain rfl := first start
      by_cases masked : gone = mask
      · obtain rfl := masked
        exact (h.same _ fun _ => within).imp_left (congrArg _)
      · refine .inr (h.worn _ _ (.ended stop ?_))
        rw [List.nil_append, List.nil_append, freshStretch, freshStretch, if_pos rfl,
          if_neg masked]
        omega
    | front start _ letters =>
      obtain rfl := first start
      exact .inr (h.worn _ _ (stretch.worn_front letters left s))
    | back _ letters stop =>
      refine .inr (h.worn _ _ (stretch.worn_back letters stop ?_ (left ++ gone)))
      cases a with
      | nil => exact Nat.zero_le _
      | cons c a => exact Nat.le_refl _
  · intro a b worn
    refine h.worn _ _ ?_
    cases worn with
    | ended stop _ => exact absurd stop (stretch.not_bounded_head s)
    | front head letter star _ bounded =>
      cases wears with
      | loss lost _ => exact absurd lost unlost
      | whole start _ _ => exact absurd start bounded
      | front start _ _ => exact absurd start bounded
      | back _ letters stop =>
        refine stretch.worn_back letters stop ?_ (left ++ gone)
        rw [List.head?_append, star, Option.some_or]
        exact Nat.zero_le _

end Fades

/-- **Where every cut wears the text down, it fades.** -/
theorem fades_of_masked (h : Masked Wears left s t) : Fades left s t := by
  induction h with
  | nil => exact .nil _
  | @keep left c s t _ ih =>
    by_cases inside : inCovers c = true
    · exact ih.keep_inside inside
    · exact ih.keep_outside (Bool.eq_false_iff.mpr inside)
  | @cut left gone veil s t wears _ ih =>
    by_cases lost : ∃ c ∈ gone, inCovers c = false
    · exact ih.cut_loss lost wears.cover
    · exact ih.cut_stretch ⟨wears.nonempty, by simpa using lost⟩ wears

/-! ## Every rule wears texts down -/

/-- Neither blanks nor marks stand in a cover. -/
theorem solid_of_inCovers {c : Char} (h : inCovers c = true) :
    isBlank c = false ∧ isMark c = false := by
  have all : ∀ c ∈ covers.flatten, isBlank c = false ∧ isMark c = false :=
    List.forall_mem_iff_getElem.mpr (by decide)
  exact all c (List.contains_iff_mem.mp h)

theorem inCovers_of_isBlank {c : Char} (h : isBlank c = true) : inCovers c = false :=
  Bool.eq_false_iff.mpr fun cover => nomatch (solid_of_inCovers cover).1.symm.trans h

theorem inCovers_of_isMark {c : Char} (h : isMark c = true) : inCovers c = false :=
  Bool.eq_false_iff.mpr fun cover => nomatch (solid_of_inCovers cover).2.symm.trans h

/-- What stands in front of a value ends a stretch. -/
theorem Keyed.IsLead.bounded {k : Keyed} {lead : List Char} (leads : k.IsLead lead)
    (front : List Char) : Bounded (front ++ lead).getLast? := by
  obtain @⟨key, gap, c, blanks, quote, opens, blank, quoted, -⟩ := leads
  have ends : ∀ d ∈ c :: (blanks ++ quote), inCovers d = false := by
    refine List.forall_mem_cons.mpr ⟨?_, List.forall_mem_append.mpr ⟨?_, ?_⟩⟩
    · exact inCovers_of_isMark (isMark_of_isAssignment opens.separates)
    · exact fun d mem => inCovers_of_isBlank (blank d mem)
    · exact fun d mem => inCovers_of_isMark (by simp [isMark, quoted d mem])
  intro d last
  have some : c :: (blanks ++ quote) ≠ [] := List.cons_ne_nil c _
  rw [← List.append_assoc key, ← List.append_assoc front, List.getLast?_append,
    List.getLast?_eq_some_getLast some, Option.some_or] at last
  exact ends d (Option.some.inj last ▸ List.getLast_mem some)

theorem Keyed.Cuts.wears {k : Keyed} {lead tail : List Char} (regular : k.Regular)
    (clear : k.value '*' = true → ∀ c, inCovers c = true → k.value c = true)
    (cuts : k.Cuts lead gone veil tail rest) (front : List Char) :
    Wears (front ++ lead) gone veil (tail ++ rest) := by
  obtain rfl := cuts.masked
  have some : gone ≠ [] :=
    List.ne_nil_of_length_pos (Nat.lt_of_lt_of_le regular.least cuts.wide.2)
  refine .of_stretch (by decide) some fun stretch => ?_
  have start := cuts.leads.bounded front
  by_cases star : k.value '*' = true
  · refine .whole start stretch fun d head => Bool.eq_false_iff.mpr fun cover => ?_
    exact nomatch (cuts.stop d head).symm.trans (clear star d cover)
  · exact .front start stretch fun mem => star (cuts.wide.1 _ mem)

theorem BearerCuts.wears {lead tail : List Char} (cuts : BearerCuts lead gone veil tail rest)
    (front : List Char) : Wears (front ++ lead) gone veil (tail ++ rest) := by
  obtain rfl := cuts.masked
  have some : gone ≠ [] := List.ne_nil_of_length_pos (Nat.zero_lt_of_lt cuts.long)
  refine .of_stretch (by decide) some fun stretch => ?_
  refine .front ?_ stretch fun mem => absurd (cuts.inside _ mem) (by decide)
  obtain @⟨word, gap, -, -, left, blank, -⟩ := cuts.leads
  intro d last
  rw [← List.append_assoc, List.getLast?_append, List.getLast?_eq_some_getLast left,
    Option.some_or] at last
  exact inCovers_of_isBlank (blank d (Option.some.inj last ▸ List.getLast_mem left))

theorem CompactCuts.wears {lead tail : List Char} (cuts : CompactCuts lead gone veil tail rest)
    (front : List Char) : Wears (front ++ lead) gone veil (tail ++ rest) :=
  .loss ⟨'.', cuts.dot, by decide⟩ (cuts.masked ▸ by decide)

theorem AddressCuts.bounded {Fits : (lead gone : List Char) → Prop} {lead veil' tail : List Char}
    (cuts : AddressCuts veil Fits lead gone veil' tail rest) : Bounded (tail ++ rest).head? := by
  obtain ⟨u, rfl⟩ := List.head?_eq_some_iff.mp cuts.sign
  intro d head
  obtain rfl : '@' = d := Option.some.inj head
  decide

theorem wears_databaseUrl {lead tail : List Char}
    (cuts : AddressCuts mask IsPassword lead gone veil tail rest) (front : List Char) :
    Wears (front ++ lead) gone veil (tail ++ rest) := by
  obtain rfl := cuts.masked
  refine .of_stretch (by decide) cuts.left fun stretch => ?_
  refine .whole (fun d last => ?_) stretch cuts.bounded
  have colon : lead.getLast? = some ':' := cuts.fits
  rw [List.getLast?_append, colon, Option.some_or] at last
  obtain rfl : ':' = d := Option.some.inj last
  decide

theorem wears_email {lead tail : List Char}
    (cuts : AddressCuts "***".toList IsName lead gone veil tail rest) (front : List Char) :
    Wears (front ++ lead) gone veil (tail ++ rest) := by
  obtain rfl := cuts.masked
  exact .of_stretch (by decide) cuts.left fun stretch =>
    .back stretch (fun mem => absurd (cuts.fits _ mem) (by decide)) cuts.bounded

/-- **Every rule wears texts down.** -/
theorem masked_replaceAll : ∀ rule ∈ rules, ∀ s, Masked Wears [] s (replaceAll rule s) := by
  have masked {rule : Rule} {D : Cut} (cutting : Cutting rule D)
      (wears : ∀ {lead gone veil tail rest}, D lead gone veil tail rest →
        ∀ front, Wears (front ++ lead) gone veil (tail ++ rest))
      (s : List Char) : Masked Wears [] s (replaceAll rule s) := by
    refine (passed_replaceFrom cutting.veils [] s).masked.imp ?_
    rintro _ _ _ _ ⟨front, _, _, _, rfl, rfl, cut⟩
    exact wears cut front
  have clear : ∀ k ∈ keyedRules, k.value '*' = true → covers.flatten.all k.value = true := by
    decide
  refine forall_mem_rules.mpr ⟨fun k mem => ?_, masked cutting_compactToken CompactCuts.wears,
    masked cutting_bearer BearerCuts.wears, masked cutting_databaseUrl wears_databaseUrl,
    masked cutting_email wears_email⟩
  have regular := regular_of_mem k mem
  exact masked (Keyed.cutting regular) (Keyed.Cuts.wears regular fun star c cover =>
    List.all_eq_true.mp (clear k mem star) c (List.contains_iff_mem.mp cover))

/-! ## Rounds -/

/-- **A list of rules changes nothing only if no rule does**: it leaves every other text less
fresh. -/
theorem foldl_eq_or_lt {l : List Rule} (sub : l ⊆ rules) (s : List Char) :
    ((∀ rule ∈ l, replaceAll rule s = s) ∧ l.foldl (fun s rule => replaceAll rule s) s = s) ∨
      freshness [] (l.foldl (fun s rule => replaceAll rule s) s) < freshness [] s := by
  induction l generalizing s with
  | nil => exact .inl ⟨List.forall_mem_nil _, rfl⟩
  | cons rule l ih =>
    obtain ⟨mem, sub⟩ := List.cons_subset.mp sub
    have later := ih sub (replaceAll rule s)
    rw [List.foldl_cons, List.forall_mem_cons]
    obtain same | less := (fades_of_masked (masked_replaceAll rule mem s)).same [] (absurd rfl)
    · rw [same] at later ⊢
      exact later.imp_left fun fixed => ⟨⟨rfl, fixed.1⟩, fixed.2⟩
    · obtain fixed | lt := later
      · exact .inr (fixed.2.symm ▸ less)
      · exact .inr (lt.trans less)

/-- **A round changes nothing exactly if no rule does.** -/
theorem redactText_eq_self_iff : redactText s = s ↔ ∀ rule ∈ rules, replaceAll rule s = s := by
  constructor
  · intro same
    obtain fixed | less := foldl_eq_or_lt (List.Subset.refl rules) s
    · exact fixed.1
    · have less : freshness [] (redactText s) < freshness [] s := less
      rw [same] at less
      exact absurd less (Nat.lt_irrefl _)
  · intro fixed
    exact List.foldlRecOn (motive := fun t => t = s) rules (fun s rule => replaceAll rule s) rfl
      fun t same rule mem => by rw [same, fixed rule mem]

/-- **Round after round, every text comes to rest.** -/
theorem exists_rounds (s : List Char) :
    ∃ n ≤ freshness [] s, redactText (redactText^[n] s) = redactText^[n] s := by
  induction h : freshness [] s using Nat.strongRecOn generalizing s with
  | ind m ih =>
    subst h
    obtain ⟨-, same⟩ | less := foldl_eq_or_lt (List.Subset.refl rules) s
    · exact ⟨0, Nat.zero_le _, same⟩
    · obtain ⟨n, le, rest⟩ := ih _ less (redactText s) rfl
      exact ⟨n + 1, Nat.lt_of_le_of_lt le less, rest⟩

end LoginGate.Redact
