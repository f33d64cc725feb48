import LoginGate.Proofs.Redact.Parts

/-!
# Proofs/Redact/Settled — what a rule has masked stays masked

Where a rule with a key has been, its mask stands behind the lead, up to something that is no value
(`Keyed.Done`). A later pass leaves that alone: a piece that it veils does not start in a lead, nor
in a mask, and if it starts with the mask then it ends behind it, and the mask is put in again.
-/

namespace LoginGate.Redact

open Text

variable {left gone veil rest s t u v w x : List Char} {before : Option Char}

/-! ## What stands in front of a piece -/

/-- The last character that is no blank. -/
def lastSolid (l : List Char) : Option Char := (l.filter fun c => !isBlank c).getLast?

theorem lastSolid_of_solid {l : List Char} (some : l ≠ []) (solid : ∀ c ∈ l, isBlank c = false)
    (front blanks : List Char) (blank : ∀ c ∈ blanks, isBlank c = true) :
    lastSolid (front ++ (l ++ blanks)) = l.getLast? := by
  have kept : l.filter (fun c => !isBlank c) = l :=
    List.filter_eq_self.mpr fun c mem => by simp [solid c mem]
  have gone : blanks.filter (fun c => !isBlank c) = [] :=
    List.filter_eq_nil_iff.mpr fun c mem => by simp [blank c mem]
  rw [lastSolid, List.filter_append, List.filter_append, kept, gone, List.append_nil,
    List.getLast?_append, List.getLast?_eq_some_getLast some, Option.some_or]

/-- One character that is no blank is the last of these, whatever blanks follow. -/
theorem lastSolid_cons {c : Char} (solid : isBlank c = false) (front : List Char)
    {blanks : List Char} (blank : ∀ d ∈ blanks, isBlank d = true) :
    lastSolid (front ++ c :: blanks) = some c := by
  simpa using lastSolid_of_solid (List.cons_ne_nil c []) (by simpa using solid) front blanks blank

/-- **Where a piece starts**: behind a mark, or behind a blank, or anywhere if it is a compact
token. Behind a mark it does not start with blanks that a mask follows. -/
inductive Starts (left gone rest : List Char) : Prop
  | mark {d : Char} (last : lastSolid left = some d) (marks : isMark d = true)
      (unquoted : ∀ c ∈ gone.head?, isQuote c = false)
      (eager : isQuote d = false → ∀ c ∈ gone.head?, isBlank c = true → ∀ quote x,
        (∀ c ∈ quote, isQuote c = true) → quote.length ≤ 1 →
          (gone ++ rest).dropWhile isBlank ≠ quote ++ (mask ++ x))
  | blank {d : Char} (last : left.getLast? = some d) (white : isBlank d = true)
      (letter : ∀ c ∈ gone.head?, isFoldedDottedChar c = true)
  | token (letter : 'e' ∈ gone.head?) (dot : '.' ∈ gone)
      (dotted : ∀ c ∈ gone, isDottedChar c = true)

/-- What a piece starts with is what the text starts with there. -/
theorem head?_eq_of_append (left : gone ≠ []) {d : Char} (text : gone ++ rest = d :: w) :
    d ∈ gone.head? := by
  obtain ⟨c, gone, rfl⟩ := List.exists_cons_of_ne_nil left
  exact congrArg some (List.cons_eq_cons.mp text).1

namespace Keyed
variable {k : Keyed} {key gap front y : List Char} {c : Char}

/-- What a key and the blanks behind it start with: letters, and blanks only if blanks are left. -/
theorem Opens.exists_letters (opens : k.Opens key gap c) (some : v ≠ [])
    (split : key ++ gap = v ++ w) :
    ∃ letters blanks, v = letters ++ blanks ∧ letters ≠ [] ∧ (∀ d ∈ letters, isKeyChar d = true) ∧
      (∀ d ∈ blanks, isBlank d = true) ∧ (blanks ≠ [] → ∀ d ∈ w, isBlank d = true) := by
  obtain ⟨u, rfl, rfl⟩ | ⟨u, rfl, rfl⟩ := List.append_eq_append_iff.mp split
  · exact ⟨key, u, rfl, opens.named, opens.letters, fun d mem => opens.blank d (by simp [mem]),
      fun _ d mem => opens.blank d (by simp [mem])⟩
  · exact ⟨v, [], by simp, some, fun d mem => opens.letters d (by simp [mem]), nofun,
      fun left => absurd rfl left⟩

/-- A token with a dot has one before the first mark. -/
theorem dot_mem_of_mark (dot : '.' ∈ gone) (dotted : ∀ c ∈ gone, isDottedChar c = true)
    (text : gone ++ rest = w ++ c :: y) (marks : isMark c = true) : '.' ∈ w := by
  obtain ⟨u, rfl, -⟩ | ⟨u, rfl, behind⟩ := List.append_eq_append_iff.mp text
  · exact List.mem_append_left u dot
  · cases u with
    | nil => simpa using dot
    | cons d u =>
      obtain rfl : c = d := (List.cons_eq_cons.mp behind).1
      have folded : isFoldedDottedChar c = true := by
        simp [isFoldedDottedChar, dotted c (by simp)]
      have unmarked := (not_mark_of_isFoldedDottedChar folded).1
      exact absurd (unmarked.symm.trans marks) Bool.false_ne_true

/-- **A piece does not start in a key**, nor between a key and its separator. -/
theorem Opens.not_starts (opens : k.Opens key gap c) (starts : Starts (front ++ v) gone rest)
    (some : v ≠ []) (nonempty : gone ≠ []) (split : key ++ gap = v ++ w)
    (text : gone ++ rest = w ++ c :: y) : False := by
  have marks := isMark_of_isAssignment opens.separates
  obtain ⟨letters, blanks, rfl, named, key', blank, ends⟩ := opens.exists_letters some split
  have solid : ∀ d ∈ letters, isBlank d = false := fun d mem => isBlank_of_isKeyChar (key' d mem)
  cases starts with
  | mark last mark _ _ =>
    rw [lastSolid_of_solid named solid front blanks blank] at last
    have letter := isMark_of_isKeyChar (key' _ (List.mem_of_getLast? last))
    exact nomatch letter.symm.trans mark
  | @blank d last white letter =>
    cases blanks with
    | nil =>
      have last : letters.getLast? = Option.some d := by
        simpa [List.getLast?_append, List.getLast?_eq_some_getLast named] using last
      exact nomatch (solid d (List.mem_of_getLast? last)).symm.trans white
    | cons e blanks =>
      cases w with
      | nil =>
        have unmarked :=
          not_mark_of_isFoldedDottedChar (letter c (head?_eq_of_append nonempty text))
        exact nomatch unmarked.1.symm.trans marks
      | cons f w =>
        have solid := isBlank_of_isFoldedDottedChar f (letter f (head?_eq_of_append nonempty text))
        exact nomatch solid.symm.trans (ends (List.cons_ne_nil e blanks) f List.mem_cons_self)
  | token _ dot dotted =>
    -- neither keys nor blanks have dots
    have inside := dot_mem_of_mark dot dotted text marks
    obtain letter | white := List.mem_append.mp (split ▸ List.mem_append_right _ inside)
    · exact absurd (opens.letters _ letter) (by decide)
    · exact absurd (opens.blank _ white) (by decide)

/-- **A value does not start in the blanks behind a separator** if the mask follows the lead: these
blanks, and the quote behind them, would be passed over. -/
theorem Opens.not_eager (opens : k.Opens key gap c) {u u' quote r : List Char} {d e : Char}
    (blank : ∀ d ∈ u ++ e :: u', isBlank d = true) (quoted : ∀ d ∈ quote, isQuote d = true)
    (single : quote.length ≤ 1) (last : lastSolid (front ++ (key ++ gap ++ c :: u)) = some d)
    (eager : isQuote d = false → ∀ c ∈ gone.head?, isBlank c = true → ∀ quote x,
      (∀ c ∈ quote, isQuote c = true) → quote.length ≤ 1 →
        (gone ++ rest).dropWhile isBlank ≠ quote ++ (mask ++ x))
    (head : e ∈ gone.head?) (text : gone ++ rest = e :: u' ++ (quote ++ (mask ++ r))) : False := by
  have white : ∀ d ∈ e :: u', isBlank d = true := fun d mem => blank d (List.mem_append_right u mem)
  have separator := lastSolid_cons (isBlank_of_isAssignment c opens.separates)
    (front ++ (key ++ gap)) fun d mem => blank d (List.mem_append_left (e :: u') mem)
  rw [List.append_assoc front] at separator
  obtain rfl := Option.some.inj (last.symm.trans separator)
  have spans : Spans isBlank (e :: u') (quote ++ (mask ++ r)) := by
    refine ⟨white, fun d head => ?_⟩
    cases quote with
    | nil =>
      obtain rfl : '*' = d := Option.some.inj head
      decide
    | cons q quote =>
      obtain rfl : q = d := Option.some.inj head
      exact isBlank_of_isQuote q (quoted q List.mem_cons_self)
  refine eager (isQuote_of_isAssignment opens.separates) e head (white e List.mem_cons_self) quote
    r quoted single ?_
  rw [text, spans.dropWhile_eq]

/-- **A piece does not start in a lead**, but right behind it. -/
theorem IsLead.not_starts {lead : List Char} (leads : k.IsLead lead) (split : lead = v ++ w)
    (starts : Starts (front ++ v) gone rest) (some : v ≠ []) (left : w ≠ []) (nonempty : gone ≠ [])
    (text : gone ++ rest = w ++ x) (solid : ∀ c ∈ x.head?, isBlank c = false)
    (fits : (∀ c ∈ gone.head?, isBlank c = false) ∨ ∃ r, x = mask ++ r) : False := by
  obtain @⟨key, gap, c, blanks, quote, opens, blank, quoted, single⟩ := leads
  rw [← List.append_assoc] at split
  obtain ⟨u, rfl, behind⟩ | ⟨u, inside, rfl⟩ := List.append_eq_append_iff.mp split
  · cases u with
    | nil =>
      obtain rfl : w = c :: (blanks ++ quote) := behind.symm
      exact opens.not_starts (w := []) (y := blanks ++ quote ++ x) starts some nonempty (by simp)
        (by simpa using text)
    | cons d u =>
      obtain ⟨rfl, later⟩ := List.cons_eq_cons.mp behind
      obtain ⟨e, w, rfl⟩ := List.exists_cons_of_ne_nil left
      have head : e ∈ gone.head? := head?_eq_of_append nonempty text
      have mem : e ∈ blanks ++ quote := later ▸ by simp
      have unfolded : isFoldedDottedChar e = false := Bool.eq_false_iff.mpr fun letter => by
        obtain white | quote := List.mem_append.mp mem
        · exact nomatch (isBlank_of_isFoldedDottedChar e letter).symm.trans (blank e white)
        · have unmarked := (not_mark_of_isFoldedDottedChar letter).1
          simp [isMark, quoted e quote] at unmarked
      cases starts with
      | blank _ _ letter => exact nomatch unfolded.symm.trans (letter e head)
      | token letter _ _ =>
        obtain rfl : 'e' = e := Option.some.inj (letter.symm.trans head)
        exact absurd unfolded (by decide)
      | mark last marks unquoted eager =>
        -- so the piece starts with blanks of the lead, and passes over what follows them
        obtain ⟨u', -, inQuote⟩ | ⟨u', rfl, rest'⟩ := List.append_eq_append_iff.mp later
        · have quote := quoted e (inQuote ▸ by simp)
          exact nomatch (unquoted e head).symm.trans quote
        cases u' with
        | nil =>
          obtain rfl : e :: w = quote := rest'
          exact nomatch (unquoted e head).symm.trans (quoted e List.mem_cons_self)
        | cons f u' =>
          obtain ⟨rfl, rfl⟩ := List.cons_eq_cons.mp rest'
          obtain solid' | ⟨r, rfl⟩ := fits
          · exact nomatch (solid' e head).symm.trans (blank e (by simp))
          · exact opens.not_eager blank quoted single last eager head (by simpa using text)
  · exact opens.not_starts (y := blanks ++ quote ++ x) starts some nonempty inside
      (by simpa using text)

/-- So a piece that starts behind the start of a lead starts behind the lead. -/
theorem IsLead.exists_of_starts {lead : List Char} (leads : k.IsLead lead)
    (starts : Starts (front ++ v) gone rest) (some : v ≠ []) (nonempty : gone ≠ [])
    (text : lead ++ x = v ++ (gone ++ rest)) (solid : ∀ c ∈ x.head?, isBlank c = false)
    (fits : (∀ c ∈ gone.head?, isBlank c = false) ∨ ∃ r, x = mask ++ r) :
    ∃ u, v = lead ++ u ∧ x = u ++ (gone ++ rest) := by
  obtain inside | ⟨w, split, behind⟩ := List.append_eq_append_iff.mp text
  · exact inside
  · cases w with
    | nil => exact ⟨[], by simpa using split.symm, behind.symm⟩
    | cons d w =>
      have left : d :: w ≠ [] := List.cons_ne_nil d w
      exact (leads.not_starts split starts some left nonempty behind solid fits).elim

/-! ## What a pass veils -/

/-- **A rule can tell its own mask**: it is a value as a whole, unless values have no blanks. -/
def Firm (k : Keyed) : Prop := (∀ c, k.value c = true → isBlank c = false) ∨ k.Wide mask

/-- **A lead ends in a mark**, but for blanks, and it is a quote if there is one. -/
theorem IsLead.lastSolid_eq {lead : List Char} (leads : k.IsLead lead) (front : List Char) :
    ∃ d, lastSolid (front ++ lead) = some d ∧ isMark d = true ∧
      (isQuote d = false → ∀ c ∈ lead, isQuote c = false) := by
  obtain @⟨key, gap, c, blanks, quote, opens, blank, quoted, single⟩ := leads
  cases quote with
  | nil =>
    have last := lastSolid_cons (isBlank_of_isAssignment c opens.separates) (front ++ (key ++ gap))
      blank
    refine ⟨c, by simpa using last, isMark_of_isAssignment opens.separates, fun _ d mem => ?_⟩
    have white {d : Char} (h : isBlank d = true) : isQuote d = false :=
      Bool.eq_false_iff.mpr fun quote => nomatch (isBlank_of_isQuote d quote).symm.trans h
    simp only [List.append_nil, List.mem_append, List.mem_cons] at mem
    obtain letter | gap | rfl | behind := mem
    · exact ((Bool.or_eq_false_iff ..).mp (isMark_of_isKeyChar (opens.letters d letter))).2
    · exact white (opens.blank d gap)
    · exact isQuote_of_isAssignment opens.separates
    · exact white (blank d behind)
  | cons q quote =>
    obtain rfl : quote = [] :=
      List.length_eq_zero_iff.mp (Nat.le_zero.mp (Nat.le_of_succ_le_succ single))
    have quote := quoted q List.mem_cons_self
    have last := lastSolid_cons (isBlank_of_isQuote q quote)
      (front ++ (key ++ (gap ++ c :: blanks))) (List.forall_mem_nil _)
    refine ⟨q, by simpa using last, by simp [isMark, quote], fun closed => ?_⟩
    exact nomatch closed.symm.trans quote

/-- A value stands behind a mark. -/
theorem Cuts.starts {lead gone veil tail rest : List Char} (regular : k.Regular) (firm : k.Firm)
    (cuts : k.Cuts lead gone veil tail rest) (front : List Char) :
    Starts (front ++ lead) gone (tail ++ rest) := by
  obtain ⟨d, last, marks, quoteless⟩ := cuts.leads.lastSolid_eq front
  have value {c : Char} (head : c ∈ gone.head?) : k.value c = true :=
    cuts.wide.1 c (List.mem_of_head? head)
  refine .mark last marks (fun c head => regular.unquoted c (value head))
    fun closed c head white quote x quoted single text => ?_
  obtain solid | wide := firm
  · exact nomatch (solid c (value head)).symm.trans white
  · have absent := cuts.eager (quoteless closed) c head white
    have found := isSome_valueAt? regular wide quoted single x
    rw [← text, absent] at found
    exact nomatch found

end Keyed

/-- A bearer stands behind a blank. -/
theorem BearerCuts.starts {lead tail : List Char} (cuts : BearerCuts lead gone veil tail rest)
    (front : List Char) : Starts (front ++ lead) gone (tail ++ rest) := by
  obtain @⟨word, gap, -, -, left, blank, -⟩ := cuts.leads
  have last := List.getLast?_eq_some_getLast left
  refine .blank (d := gap.getLast left) ?_ (blank _ (List.getLast_mem left))
    fun c head => cuts.inside c (List.mem_of_head? head)
  rw [List.getLast?_append, List.getLast?_append, last, Option.some_or, Option.some_or]

theorem CompactCuts.starts {lead tail : List Char} (cuts : CompactCuts lead gone veil tail rest)
    (front : List Char) : Starts (front ++ lead) gone (tail ++ rest) :=
  .token cuts.letter cuts.dot cuts.dotted

/-- **Pieces are as long as they may be**: none starts where another has ended. -/
structure Greedy (D : Cut) (p : Char → Bool) : Prop where
  starts : ∀ {lead gone veil tail rest}, D lead gone veil tail rest → ∃ c ∈ gone.head?, p c = true
  stops : ∀ {lead gone veil tail rest}, D lead gone veil tail rest →
    ∀ c ∈ (tail ++ rest).head?, p c = false

/-- So what follows a piece is kept. -/
theorem Greedy.head?_eq {D : Cut} {p : Char → Bool} (greedy : Greedy D p)
    (h : Masked (pieces D) left s t) (stop : ∀ c ∈ s.head?, p c = false) :
    t.head? = s.head? := by
  cases h with
  | nil => rfl
  | keep => rfl
  | cut cut _ =>
    obtain ⟨front, lead, tail, behind, -, -, cut⟩ := cut
    obtain ⟨c, head, inside⟩ := greedy.starts cut
    obtain ⟨u, rfl⟩ := List.head?_eq_some_iff.mp head
    exact nomatch (stop c rfl).symm.trans inside

/-! ## What stays masked -/

namespace Keyed
variable {k : Keyed} {D : Cut}

/-- **What a rule has masked**: a lead, its mask, and then no value. -/
inductive Done (k : Keyed) : List Char → Prop
  | mk {lead rest : List Char} (leads : k.IsLead lead)
      (stop : ∀ c ∈ rest.head?, k.value c = false) :
      Done k (lead ++ (mask ++ rest))

/-- **Cuts spare what a rule has masked.** A piece that starts with the mask ends behind it. -/
structure Spares (k : Keyed) (D : Cut) : Prop where
  starts : ∀ {lead gone veil tail rest}, D lead gone veil tail rest →
    ∀ front, Starts (front ++ lead) gone (tail ++ rest)
  again : ∀ {lead gone veil tail rest r}, D lead gone veil tail rest →
    gone ++ (tail ++ rest) = mask ++ r → (∀ c ∈ r.head?, k.value c = false) →
      veil = mask ∧ (∃ u, gone = mask ++ u) ∧ ∀ c ∈ (tail ++ rest).head?, k.value c = false
  greedy : ∃ p, Greedy D p

theorem head?_mask {r : List Char} : ∀ c ∈ (mask ++ r).head?, isBlank c = false := by
  intro c head
  obtain rfl : '*' = c := Option.some.inj head
  decide

/-- **A piece does not start in a mask**, nor right behind one. -/
theorem not_starts_in_mask (front : List Char) (regular : k.Regular)
    (starts : Starts (front ++ v) gone rest) (some : v ≠ []) (nonempty : gone ≠ [])
    (split : mask = v ++ w) (text : gone ++ rest = w ++ x)
    (stop : ∀ c ∈ x.head?, k.value c = false) : False := by
  have plain : ∀ c ∈ mask, isBlank c = false ∧ isMark c = false ∧ c ≠ 'e' :=
    List.forall_mem_iff_getElem.mpr (by decide)
  have inside : ∀ c ∈ v, c ∈ mask := fun c mem => split ▸ List.mem_append_left w mem
  cases starts with
  | mark last marks _ _ =>
    have ends := lastSolid_of_solid some (fun c mem => (plain c (inside c mem)).1) front
      [] nofun
    rw [List.append_nil, last] at ends
    have unmarked := (plain _ (inside _ (List.mem_of_getLast? ends.symm))).2.1
    exact nomatch unmarked.symm.trans marks
  | blank last white _ =>
    rw [List.getLast?_append, List.getLast?_eq_some_getLast some, Option.some_or] at last
    have solid := (plain _ (inside _ (List.getLast_mem some))).1
    exact nomatch (Option.some.inj last ▸ solid).symm.trans white
  | token letter _ _ =>
    obtain ⟨u, rfl⟩ := List.head?_eq_some_iff.mp letter
    cases w with
    | nil =>
      obtain rfl : 'e' :: u ++ rest = x := text
      exact nomatch (stop 'e' rfl).symm.trans (regular.tokens 'e' (by decide))
    | cons d w =>
      obtain rfl : 'e' = d := (List.cons_eq_cons.mp text).1
      exact (plain 'e' (split ▸ by simp)).2.2 rfl

/-- **What is masked stays masked.** -/
theorem Done.of_masked (regular : k.Regular) (spares : k.Spares D) {c : Char}
    (done : k.Done (c :: s)) (h : Masked (pieces D) (left ++ [c]) s t) : k.Done (c :: t) := by
  obtain rfl | ⟨v, front, lead', gone, veil, tail, behind, t, some, text, shown, place, cut,
    later⟩ := h.split_cons
  · exact done
  obtain ⟨p, greedy⟩ := spares.greedy
  have head := greedy.head?_eq later (greedy.stops cut)
  have nonempty : gone ≠ [] := by
    obtain ⟨e, inside, -⟩ := greedy.starts cut
    rintro rfl
    exact nomatch inside
  have starts : Starts (left ++ v) gone (tail ++ behind) := place ▸ spares.starts cut front
  generalize c :: s = whole at done text
  obtain @⟨lead, r, leads, stop⟩ := done
  obtain ⟨u, rfl, masked⟩ :=
    leads.exists_of_starts starts some nonempty text head?_mask (.inr ⟨r, rfl⟩)
  rw [shown, List.append_assoc]
  by_cases atMask : u = []
  · subst atMask
    obtain ⟨rfl, -, stop⟩ := spares.again cut masked.symm stop
    exact .mk leads (head ▸ stop)
  · obtain ⟨u', rfl, rfl⟩ | ⟨w, split, text⟩ := List.append_eq_append_iff.mp masked
    · rw [List.append_assoc]
      refine .mk leads fun d first => ?_
      cases u' with
      | nil =>
        refine (not_starts_in_mask (left ++ lead) regular (v := mask) (w := []) ?_
          (by decide) nonempty (by simp) rfl stop).elim
        simpa using starts
      | cons e u' => exact stop d first
    · refine (not_starts_in_mask (left ++ lead) regular (v := u) ?_ atMask nonempty split text
        stop).elim
      simpa using starts

theorem Cuts.greedy (regular : k.Regular) : Greedy k.Cuts k.value where
  starts cuts := by
    obtain ⟨c, u, rfl⟩ :=
      List.exists_cons_of_length_pos (Nat.lt_of_lt_of_le regular.least cuts.wide.2)
    exact ⟨c, rfl, cuts.wide.1 c List.mem_cons_self⟩
  stops := Cuts.stop

/-- **A rule with a key spares** what another has masked, if the one takes all for a value that the
other does. -/
theorem Cuts.spares {k' : Keyed} (regular : k'.Regular) (firm : k'.Firm)
    (star : k'.value '*' = true → ∀ c ∈ mask, k'.value c = true)
    (comparable : (∀ c, k.value c = true → k'.value c = true) ∨
      ∀ c, k'.value c = true → k.value c = true) : k.Spares k'.Cuts where
  starts cuts front := cuts.starts regular firm front
  greedy := ⟨k'.value, greedy regular⟩
  again {lead gone veil tail rest r} cuts text stop := by
    obtain ⟨c, u, rfl⟩ :=
      List.exists_cons_of_length_pos (Nat.lt_of_lt_of_le regular.least cuts.wide.2)
    obtain rfl : c = '*' := (List.cons_eq_cons.mp text).1
    have masked := star (cuts.wide.1 _ List.mem_cons_self)
    generalize '*' :: u = gone at *
    obtain ⟨u, split, behind⟩ | ⟨u, rfl, rfl⟩ := List.append_eq_append_iff.mp text
    · cases u with
      | nil =>
        refine ⟨cuts.masked, ⟨[], by simpa using split.symm⟩, ?_⟩
        rw [behind]
        exact stop
      | cons d u =>
        have outside := cuts.stop d (by rw [behind]; rfl)
        exact nomatch outside.symm.trans (masked d (split ▸ by simp))
    · refine ⟨cuts.masked, ⟨u, rfl⟩, fun d head => ?_⟩
      obtain within | within := comparable
      · exact Bool.eq_false_iff.mpr fun inside =>
          nomatch (cuts.stop d head).symm.trans (within d inside)
      · cases u with
        | nil => exact stop d head
        | cons e u =>
          have inside := within e (cuts.wide.1 e (by simp))
          exact nomatch (stop e rfl).symm.trans inside

theorem spares_bearer : k.Spares BearerCuts where
  starts cuts front := cuts.starts front
  greedy := by
    refine ⟨isFoldedDottedChar, fun cuts => ?_, fun cuts => ?_⟩
    · obtain ⟨c, u, rfl⟩ := List.exists_cons_of_length_pos (Nat.zero_lt_of_lt cuts.long)
      exact ⟨c, rfl, cuts.inside c List.mem_cons_self⟩
    · obtain rfl := cuts.tailless
      exact cuts.stop
  again cuts text _ := by
    obtain ⟨c, u, rfl⟩ := List.exists_cons_of_length_pos (Nat.zero_lt_of_lt cuts.long)
    obtain rfl : c = '*' := (List.cons_eq_cons.mp text).1
    exact absurd (cuts.inside _ List.mem_cons_self) (by decide)

theorem spares_compactToken : k.Spares CompactCuts where
  starts cuts front := cuts.starts front
  greedy := ⟨isTokenChar, fun cuts => ⟨'e', cuts.letter, by decide⟩, fun cuts =>
    (cutting_compactToken.sealed cuts).2⟩
  again cuts text _ := by
    obtain ⟨u, rfl⟩ := List.head?_eq_some_iff.mp cuts.letter
    exact absurd (List.cons_eq_cons.mp text).1 (by decide)

/-! ## A rule behind its own mask -/

/-- **What a rule finds in what it has masked** is its mask. -/
theorem Done.idle (regular : k.Regular) (firm : k.Firm) (spares : k.Spares k.Cuts) {m : Match}
    (done : k.Done s) (found : k.rule before s = some m) :
    k.Wide mask ∧ ∃ x rest, s = x ++ rest ∧ x ≠ [] ∧ m = ⟨x.length, x⟩ := by
  obtain @⟨lead, r, leads, stop⟩ := done
  have veils := veils_rule regular found
  generalize whole : lead ++ (mask ++ r) = text at veils
  obtain @⟨lead', gone, veil, tail, rest, nonempty, cuts⟩ := veils
  have named : lead' ≠ [] := by
    obtain ⟨opens, -, -, -⟩ := cuts.leads
    simp [opens.named]
  obtain ⟨u, rfl, behind⟩ := leads.exists_of_starts (cuts.starts regular firm []) named nonempty
    whole head?_mask (.inr ⟨r, rfl⟩)
  obtain rfl : u = [] := by
    cases u with
    | nil => rfl
    | cons d u =>
      obtain rfl : '*' = d := (List.cons_eq_cons.mp behind).1
      exact absurd (by simp) cuts.leads.star_not_mem
  rw [List.append_nil] at cuts ⊢
  obtain ⟨rfl, ⟨u, rfl⟩, -⟩ := spares.again cuts behind.symm stop
  obtain rfl : u = [] := by
    cases u with
    | nil => rfl
    | cons d u =>
      have text : d :: u ++ (tail ++ rest) = r := by simpa using behind.symm
      have inside := cuts.wide.1 d (by simp)
      exact nomatch (stop d (text ▸ rfl)).symm.trans inside
  rw [List.append_nil] at cuts
  refine ⟨cuts.wide, lead ++ (mask ++ tail), rest, by simp, ?_, by simp⟩
  simpa using fun (h : lead = []) => absurd h (by simpa using named)

/-! ## A pass over what is masked, and over what is to be -/

/-- **A rule is quiet** at a place: it finds nothing, or what it has masked. -/
def Quiet (k : Keyed) (before : Option Char) (s : List Char) : Prop :=
  k.rule before s = none ∨ k.Done s

/-- **A rule is sure** of a place: where its key stands with a separator, it finds a value. -/
def Sure (k : Keyed) (before : Option Char) (s : List Char) : Prop :=
  (k.afterSeparator? s).isSome → (k.rule before s).isSome

/-- A part of a lead with a mask behind it is a lead, if it starts with the key. -/
theorem IsLead.done (regular : k.Regular) {lead r : List Char} (leads : k.IsLead lead)
    (suffix : u <:+ lead) (stop : ∀ c ∈ r.head?, k.value c = false)
    (read : (k.afterSeparator? (u ++ (mask ++ r))).isSome) : k.Done (u ++ (mask ++ r)) := by
  obtain ⟨front, rfl⟩ := suffix
  obtain ⟨z, read⟩ := Option.isSome_iff_exists.mp read
  obtain ⟨key, gap, c, opens, split⟩ := exists_opens regular read
  have star : mask ++ r = '*' :: (mask.tail ++ r) := rfl
  obtain ⟨y, rfl, -⟩ := exists_of_star_not_mem (z := z) (by simpa [star] using split)
    opens.isLead.star_not_mem
  obtain ⟨blanks, quote, rfl, blank, quoted, single⟩ := leads.of_assignment
    (x := front ++ (key ++ gap)) (c := c) (y := y) (by simp) opens.separates
  have leads : k.IsLead (key ++ (gap ++ c :: (blanks ++ quote))) := .mk opens blank quoted single
  simpa using Done.mk leads stop

/-- Where a rule finds nothing, there is no value behind a lead. -/
theorem not_wide_of_rule_eq_none (regular : k.Regular) {lead g z : List Char}
    (absent : k.rule before s = none) (leads : k.IsLead lead) (text : s = lead ++ (g ++ z)) :
    ¬ k.Wide g := by
  intro wide
  have found := isSome_of_lead regular leads wide before z
  rw [← text, absent] at found
  exact nomatch found

/-- Where a rule finds nothing, it finds nothing once other values of it are masked further on. -/
theorem rule_eq_none_of_wide (regular : k.Regular)
    (wide : ∀ {lead gone veil tail rest}, D lead gone veil tail rest → k.Wide gone)
    (star : ∀ {lead gone veil tail rest}, D lead gone veil tail rest → ∃ x, veil = '*' :: x)
    {c : Char} {before' : Option Char} (absent : k.rule before (c :: s) = none)
    (h : Masked (pieces D) (left ++ [c]) s t) : k.rule before' (c :: t) = none := by
  obtain rfl | ⟨v, front, lead', gone, veil, tail, behind, t, -, text, shown, -, cut, -⟩ :=
    h.split_cons
  · exact absent
  obtain ⟨x, rfl⟩ := star cut
  rw [shown]
  refine Option.eq_none_iff_forall_ne_some.mpr fun m found => ?_
  obtain ⟨lead, g, leads, inside, ⟨z, rfl, long⟩ | ⟨rfl, -⟩⟩ :=
    (reads regular).of_star (x := x ++ t) (Option.isSome_iff_exists.mpr ⟨m, found⟩)
  · refine not_wide_of_rule_eq_none regular absent leads (z := z ++ (gone ++ (tail ++ behind))) ?_
      ⟨inside, long⟩
    simpa using text
  · refine not_wide_of_rule_eq_none regular absent leads (g := g ++ gone) (z := tail ++ behind) ?_
      ⟨List.forall_mem_append.mpr ⟨inside, (wide cut).1⟩, ?_⟩
    · simpa using text
    · rw [List.length_append]
      exact (wide cut).2.trans (Nat.le_add_left ..)

/-- **No key is made** by what is masked further on. -/
theorem afterSeparator?_eq_none_of_masked (regular : k.Regular)
    (star : ∀ {lead gone veil tail rest}, D lead gone veil tail rest → ∃ x, veil = '*' :: x)
    {c : Char} (absent : k.afterSeparator? (c :: s) = none)
    (h : Masked (pieces D) (left ++ [c]) s t) : k.afterSeparator? (c :: t) = none := by
  obtain rfl | ⟨v, _, _, gone, veil, tail, behind, t, -, text, shown, -, cut, -⟩ := h.split_cons
  · exact absent
  · obtain ⟨x, rfl⟩ := star cut
    rw [text] at absent
    rw [shown]
    refine Option.not_isSome_iff_eq_none.mp fun read => ?_
    have early := isSome_afterSeparator? regular (x := x ++ t) read (gone ++ (tail ++ behind))
    exact nomatch absent ▸ early

/-- **A rule with a key is quiet behind its own pass.** -/
theorem quiet (regular : k.Regular) (outside : k.Outside) (s : List Char) :
    Everywhere k.Quiet none (replaceAll k.rule s) := by
  refine (passed_replaceFrom (veils_rule regular) [] s).everywhere (.inl rfl)
    (fun cuts => ((cutting regular).sealed cuts).2) (fun rest _ absent => .inl ?_) ?_ ?_ ?_
  · exact rule_eq_none_of_wide regular Cuts.wide
      (fun cuts => star_of_mem_covers ((cutting regular).sealed cuts).1) absent rest.masked
  · intro left lead gone veil tail s t before u cuts rest some suffix
    rw [cuts.masked]
    cases read : k.afterSeparator? (u ++ (mask ++ (tail ++ t))) with
    | none => exact .inl (rule_eq_none_of_afterSeparator? read)
    | some r =>
      refine .inr (cuts.leads.done regular suffix (fun c head => ?_) (read ▸ rfl))
      cases tail with
      | nil => exact cuts.stop c ((Cuts.greedy regular).head?_eq rest.masked cuts.stop ▸ head)
      | cons d tail => exact cuts.stop c head
  · intro lead gone veil tail s t before u cuts some suffix
    refine .inl (rule_eq_none_of_afterSeparator? (outside.afterSeparator?_eq_none regular ?_ some
      suffix _))
    exact ((cutting regular).sealed cuts).1
  · intro lead gone veil tail s t before u cuts some suffix
    obtain ⟨c, u, rfl⟩ := List.exists_cons_of_ne_nil some
    refine .inl (rule_eq_none_of_afterSeparator? (Option.not_isSome_iff_eq_none.mp fun read => ?_))
    have letter := isKeyChar_of_afterSeparator? regular read
    have quote := cuts.quoted c (suffix.subset List.mem_cons_self)
    simpa [isMark, quote] using isMark_of_isKeyChar letter

/-- **A rule stays sure** of a place where values are masked by what is a value again. -/
theorem Sure.of_masked (regular : k.Regular) (solid : ∀ c, k.value c = true → isBlank c = false)
    (starts : ∀ {lead gone veil tail rest}, D lead gone veil tail rest →
      ∀ front, Starts (front ++ lead) gone (tail ++ rest))
    (head : ∀ {lead gone veil tail rest}, D lead gone veil tail rest →
      ∃ c ∈ gone.head?, isBlank c = false)
    (wide : ∀ {lead gone veil tail rest}, D lead gone veil tail rest → k.Wide veil)
    (star : ∀ {lead gone veil tail rest}, D lead gone veil tail rest → ∃ x, veil = '*' :: x)
    {c : Char} {before' : Option Char} (sure : k.Sure before (c :: s))
    (h : Masked (pieces D) (left ++ [c]) s t) : k.Sure before' (c :: t) := by
  obtain rfl | ⟨v, front, lead', gone, veil, tail, behind, t, some, text, shown, place, cut, -⟩ :=
    h.split_cons
  · exact sure
  rw [text] at sure
  rw [shown]
  intro read
  obtain ⟨x, star⟩ := star cut
  have read := isSome_afterSeparator? regular (x := x ++ t) (by simpa [star] using read)
    (gone ++ (tail ++ behind))
  obtain ⟨lead, g, z, text, leads, inside, long⟩ := (reads regular).parts (sure read)
  obtain ⟨e, first, white⟩ := head cut
  obtain ⟨gone, rfl⟩ := List.head?_eq_some_iff.mp first
  have starts : Starts (left ++ v) (e :: gone) (tail ++ behind) := place ▸ starts cut front
  have value : ∀ d ∈ (g ++ z).head?, isBlank d = false := by
    obtain ⟨d, g, rfl⟩ := List.exists_cons_of_length_pos (Nat.lt_of_lt_of_le regular.least long)
    intro d' head
    obtain rfl : d = d' := Option.some.inj head
    exact solid d (inside d List.mem_cons_self)
  have fits : ∀ d ∈ (e :: gone).head?, isBlank d = false := fun d head =>
    Option.some.inj head ▸ white
  obtain ⟨u, rfl, behind⟩ := leads.exists_of_starts starts some (List.cons_ne_nil e gone) text.symm
    value (.inl fits)
  rw [List.append_assoc]
  obtain ⟨y, rfl, -⟩ | ⟨y, rfl, -⟩ := List.append_eq_append_iff.mp behind
  · have found := isSome_of_lead regular leads ⟨inside, long⟩ before' (y ++ (veil ++ t))
    simpa using found
  · obtain ⟨cover, size⟩ := wide cut
    have inside : ∀ c ∈ u ++ veil, k.value c = true := List.forall_mem_append.mpr
      ⟨fun c mem => inside c (List.mem_append_left y mem), cover⟩
    have long : k.least ≤ (u ++ veil).length := by
      rw [List.length_append]
      exact size.trans (Nat.le_add_left ..)
    have found := isSome_of_lead regular leads ⟨inside, long⟩ before' t
    simpa using found

/-- **A rule is settled** at a place: its key does not stand there with a separator, or its mask
stands behind them. -/
def Settled (k : Keyed) (_before : Option Char) (s : List Char) : Prop :=
  k.afterSeparator? s = none ∨ k.Done s

/-- What is quiet and sure is settled. -/
theorem Quiet.settled (quiet : k.Quiet before s) (sure : k.Sure before s) :
    k.Settled before s := by
  refine quiet.imp_left fun absent => Option.not_isSome_iff_eq_none.mp fun read => ?_
  exact nomatch absent ▸ sure read

theorem Settled.quiet (settled : k.Settled before s) : k.Quiet before s :=
  settled.imp_left rule_eq_none_of_afterSeparator?

theorem Quiet.idle (regular : k.Regular) (firm : k.Firm) (spares : k.Spares k.Cuts)
    (quiet : k.Quiet before s) : Idle k.rule before s := by
  intro m found
  obtain absent | done := quiet
  · exact nomatch absent.symm.trans found
  · exact (done.idle regular firm spares found).2

/-- **Where a rule finds nothing**, it finds nothing behind values of another rule, if it takes no
marks for values, and its mask is too short for one. -/
theorem rule_eq_none_of_marks {k' : Keyed} (regular : k.Regular) (firm : k.Firm)
    (spares : k.Spares k.Cuts) (short : ¬ k.Wide mask)
    (plain : ∀ c, k.value c = true → isBlank c = false ∧ isMark c = false)
    (regular' : k'.Regular) (within : ∀ c, k.value c = true → k'.value c = true) {c : Char}
    {before' : Option Char} (absent : k.rule before (c :: s) = none)
    (h : Masked (pieces k'.Cuts) (left ++ [c]) s t) : k.rule before' (c :: t) = none := by
  obtain rfl | ⟨v, front, lead', gone, veil, tail, behind, t, -, text, shown, place, cut,
    later⟩ := h.split_cons
  · exact absent
  rw [shown, cut.masked]
  refine Option.eq_none_iff_forall_ne_some.mpr fun m found => ?_
  obtain ⟨lead, g, leads, inside, ⟨z, rfl, long⟩ | ⟨rfl, -⟩⟩ := (reads regular).of_star
    (x := mask.tail ++ t) (Option.isSome_iff_exists.mpr ⟨m, found⟩)
  · refine not_wide_of_rule_eq_none regular absent leads (z := z ++ (gone ++ (tail ++ behind))) ?_
      ⟨inside, long⟩
    simpa using text
  by_cases named : g = []
  · -- the mask stands right behind the lead
    subst named
    have head := (Cuts.greedy regular').head?_eq later cut.stop
    have done : k.Done (lead ++ (mask ++ t)) := .mk leads fun d first =>
      Bool.eq_false_iff.mpr fun value => nomatch
        (cut.stop d (head ▸ first)).symm.trans (within d value)
    rw [List.append_nil] at found
    exact short (done.idle regular firm spares found).1
  · obtain ⟨d, last, marks, -⟩ := cut.leads.lastSolid_eq front
    have ends := lastSolid_of_solid named (fun d mem => (plain d (inside d mem)).1) (left ++ lead)
      [] nofun
    rw [List.append_nil, List.append_assoc, place, last] at ends
    have unmarked := (plain d (inside d (List.mem_of_getLast? ends.symm))).2
    exact nomatch unmarked.symm.trans marks

section Pass
variable {other : Rule} (regular : k.Regular) (outside : k.Outside) (cutting : Cutting other D)
include regular outside cutting

/-- **From a text to what a pass makes of it**, for what holds where no key stands. -/
theorem everywhere_replaceAll {P Q : Option Char → List Char → Prop}
    (kept : ∀ {left before c s t}, Masked (pieces D) (left ++ [c]) s t → Q left.getLast? (c :: s) →
      P before (c :: t))
    (keyless : ∀ {before s}, k.afterSeparator? s = none → P before s)
    (h : Everywhere Q none s) : Everywhere P none (replaceAll other s) := by
  refine (passed_replaceFrom cutting.veils [] s).masked.everywhere h (.inl rfl) ?_
    (fun rest _ all => kept rest all) ?_
  · rintro _ _ _ _ ⟨_, _, _, _, _, rfl, cut⟩
    exact (cutting.sealed cut).2
  · rintro _ _ _ _ _ u _ ⟨_, _, _, _, _, _, cut⟩ left suffix
    exact keyless (outside.afterSeparator?_eq_none regular (cutting.sealed cut).1 left suffix _)

/-- **A rule stays quiet** under a pass that spares what it has masked, and veils nothing but values
of the rule. -/
theorem quiet_replaceAll (spares : k.Spares D)
    (wide : ∀ {lead gone veil tail rest}, D lead gone veil tail rest → k.Wide gone)
    (h : Everywhere k.Quiet none s) : Everywhere k.Quiet none (replaceAll other s) := by
  refine everywhere_replaceAll regular outside cutting (fun rest quiet => ?_)
    (fun absent => .inl (rule_eq_none_of_afterSeparator? absent)) h
  refine quiet.imp (fun absent => ?_) fun done => done.of_masked regular spares rest
  exact rule_eq_none_of_wide regular wide (fun cut => star_of_mem_covers (cutting.sealed cut).1)
    absent rest

theorem sure_replaceAll (solid : ∀ c, k.value c = true → isBlank c = false)
    (starts : ∀ {lead gone veil tail rest}, D lead gone veil tail rest →
      ∀ front, Starts (front ++ lead) gone (tail ++ rest))
    (head : ∀ {lead gone veil tail rest}, D lead gone veil tail rest →
      ∃ c ∈ gone.head?, isBlank c = false)
    (wide : ∀ {lead gone veil tail rest}, D lead gone veil tail rest → k.Wide veil)
    (h : Everywhere k.Sure none s) : Everywhere k.Sure none (replaceAll other s) :=
  everywhere_replaceAll regular outside cutting (fun rest sure => sure.of_masked regular solid
    starts head wide (fun cut => star_of_mem_covers (cutting.sealed cut).1) rest)
    (fun absent read => nomatch absent ▸ read) h

/-- **A rule stays settled** under a pass that spares what it has masked. -/
theorem settled_replaceAll (spares : k.Spares D)
    (h : Everywhere k.Settled none s) : Everywhere k.Settled none (replaceAll other s) := by
  refine everywhere_replaceAll regular outside cutting (fun rest settled => ?_) .inl h
  refine settled.imp (fun absent => ?_) fun done => done.of_masked regular spares rest
  exact afterSeparator?_eq_none_of_masked regular
    (fun cut => star_of_mem_covers (cutting.sealed cut).1) absent rest

end Pass

end Keyed
end LoginGate.Redact
