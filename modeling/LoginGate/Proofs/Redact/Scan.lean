import LoginGate.Redact.Scan
import LoginGate.Text.Blank

/-!
# Proofs/Redact/Scan — a text that ends in a blank, and what is put behind it

Blanks keep the words of a message apart. A rule that starts in a text ending in a blank either does
not see what stands behind that blank, or it swallows all of it. So one pass over such a text and
more comes to one pass over each, or to the same for everything that may follow.
-/

namespace LoginGate.Redact

open Text

/-! ## Texts that end in a blank -/

/-- **A text ends in a blank.** -/
def EndsBlank (s : List Char) : Prop := ∃ c ∈ s.getLast?, isBlank c = true

section EndsBlank
variable {s r : List Char}

theorem EndsBlank.ne_nil (h : EndsBlank s) : s ≠ [] := by
  rintro rfl
  obtain ⟨c, last, -⟩ := h
  exact nomatch last

theorem endsBlank_append_iff (front : List Char) (left : r ≠ []) :
    EndsBlank (front ++ r) ↔ EndsBlank r := by
  rw [EndsBlank, EndsBlank, List.getLast?_append, List.getLast?_eq_some_getLast left,
    Option.some_or]

/-- What is left of the text ends in the same blank. -/
theorem EndsBlank.of_suffix (h : EndsBlank s) (suffix : r <:+ s) (left : r ≠ []) :
    EndsBlank r := by
  obtain ⟨front, rfl⟩ := suffix
  exact (endsBlank_append_iff front left).mp h

theorem EndsBlank.exists_isBlank (h : EndsBlank s) : ∃ c ∈ s, isBlank c = true := by
  obtain ⟨c, last, blank⟩ := h
  exact ⟨c, List.mem_of_getLast? last, blank⟩

end EndsBlank

/-! ## One pass of a rule -/

variable {rule : Rule} {T : List Char → Prop} {before : Option Char} {s t : List Char}

/-- What is passed over whole leaves nothing. -/
theorem replaceFrom_of_length_le {skip : Nat} (h : s.length ≤ skip) :
    replaceFrom rule before skip s = [] := by
  rw [replaceFrom_skip, List.drop_of_length_le h, replaceFrom_nil]

/-- What is swallowed whole is replaced whole. -/
theorem replaceFrom_of_swallowed {c : Char} {r : List Char}
    (h : rule before (c :: s) = some ⟨(c :: s).length, r⟩) :
    replaceFrom rule before 0 (c :: s) = r := by
  have rest : replaceFrom rule (some c) ((c :: s).length - 1) s = [] :=
    replaceFrom_of_length_le (Nat.le_refl _)
  rw [replaceFrom_of_some h, rest, List.append_nil]

/-- **A rule is steady before texts of a class.** In a text that ends in a blank it does not take
that blank, and does not see what stands behind it, unless it swallows everything, and puts the same
in its place whatever it was. -/
structure Steady (rule : Rule) (T : List Char → Prop) : Prop where
  short : ∀ {before s m}, EndsBlank s → rule before s = some m → 0 < m.size ∧ m.size < s.length
  blind : ∀ before {s}, EndsBlank s → (∀ t, T t → rule before (s ++ t) = rule before s) ∨
    ∃ r, ∀ t, T t → rule before (s ++ t) = some ⟨(s ++ t).length, r⟩

/-- **The ways through a text that ends in a blank**: a character is passed over, or it is the last
one, or no match starts there, or one does. -/
theorem Steady.induct (steady : Steady rule T) {P : Option Char → Nat → List Char → Prop}
    (passed : ∀ {before c s skip}, EndsBlank s → P (some c) skip s → P before (skip + 1) (c :: s))
    (last : ∀ {before c}, isBlank c = true → rule before [c] = none → P before 0 [c])
    (copied : ∀ {before c s}, EndsBlank s → rule before (c :: s) = none → P (some c) 0 s →
      P before 0 (c :: s))
    (replaced : ∀ {before c s m}, EndsBlank s → rule before (c :: s) = some m →
      P (some c) (m.size - 1) s → P before 0 (c :: s)) :
    ∀ {s : List Char} (before : Option Char) {skip : Nat}, EndsBlank s → skip < s.length →
      P before skip s := by
  intro s
  induction s with
  | nil => exact fun _ _ h => absurd rfl h.ne_nil
  | cons c s ih =>
    intro before skip h inside
    -- behind the first character there is nothing, or a text that ends in the same blank
    have rest {skip : Nat} (inside : skip < s.length) : EndsBlank s :=
      (endsBlank_append_iff [c] (List.length_pos_iff.mp (Nat.zero_lt_of_lt inside))).mp h
    cases skip with
    | succ skip =>
      have inside : skip < s.length := Nat.lt_of_succ_lt_succ inside
      exact passed (rest inside) (ih _ (rest inside) inside)
    | zero =>
      cases seen : rule before (c :: s) with
      | none =>
        cases s with
        | nil =>
          obtain ⟨d, found, blank⟩ := h
          obtain rfl : c = d := Option.some.inj found
          exact last blank seen
        | cons d s =>
          have inside : 0 < (d :: s).length := Nat.zero_lt_succ _
          exact copied (rest inside) seen (ih _ (rest inside) inside)
      | some m =>
        obtain ⟨positive, short⟩ := steady.short h seen
        have inside : m.size - 1 < s.length := by
          rw [List.length_cons] at short
          omega
        exact replaced (rest inside) seen (ih _ (rest inside) inside)

/-- What is made of a text that ends in a blank ends in a blank. -/
theorem Steady.endsBlank_replaceFrom (steady : Steady rule T) (h : EndsBlank s) :
    EndsBlank (replaceFrom rule before 0 s) := by
  have behind (front : List Char) {r : List Char} (later : EndsBlank r) : EndsBlank (front ++ r) :=
    (endsBlank_append_iff front later.ne_nil).mpr later
  refine steady.induct (P := fun before skip s => EndsBlank (replaceFrom rule before skip s))
    ?_ ?_ ?_ ?_ before h (List.length_pos_iff.mpr h.ne_nil)
  · exact fun _ later => later
  · intro before c blank seen
    rw [replaceFrom_of_none seen, replaceFrom_nil]
    exact ⟨c, rfl, blank⟩
  · intro before c s _ seen later
    rw [replaceFrom_of_none seen]
    exact behind [c] later
  · intro before c s m _ seen later
    rw [replaceFrom_of_some seen]
    exact behind _ later

/-- **A pass splits** at the end of a text, if it comes to one over the text and one over what
follows, or to the same for everything that may follow. -/
def Splits (rule : Rule) (T : List Char → Prop) (before : Option Char) (skip : Nat)
    (s : List Char) : Prop :=
  (∀ t, T t → replaceFrom rule before skip (s ++ t) =
      replaceFrom rule before skip s ++ replaceFrom rule s.getLast? 0 t) ∨
    ∃ out, ∀ t, T t → replaceFrom rule before skip (s ++ t) = out

/-- **One pass of a steady rule splits** at the end of a text that ends in a blank. -/
theorem Steady.splits (steady : Steady rule T) (before : Option Char) (h : EndsBlank s) :
    Splits rule T before 0 s := by
  have behind {c : Char} {s : List Char} (h : EndsBlank s) : EndsBlank (c :: s) :=
    (endsBlank_append_iff [c] h.ne_nil).mpr h
  have last {c : Char} {s : List Char} (h : EndsBlank s) : (c :: s).getLast? = s.getLast? :=
    List.getLast?_cons_of_ne_nil h.ne_nil
  -- where everything is swallowed nothing is left to look at
  have orSwallowed {before : Option Char} {c : Char} {s : List Char} (h : EndsBlank (c :: s))
      (splits : (∀ t, T t → rule before (c :: (s ++ t)) = rule before (c :: s)) →
        Splits rule T before 0 (c :: s)) : Splits rule T before 0 (c :: s) := by
    obtain blind | ⟨r, all⟩ := steady.blind before h
    · exact splits blind
    · exact .inr ⟨r, fun t ht => replaceFrom_of_swallowed (all t ht)⟩
  refine steady.induct (P := Splits rule T) ?_ ?_ ?_ ?_ before h (List.length_pos_iff.mpr h.ne_nil)
  · intro before c s skip h splits
    rwa [Splits, last h]
  · intro before c blank seen
    refine orSwallowed ⟨c, rfl, blank⟩ fun blind => .inl fun t ht => ?_
    rw [replaceFrom_of_none seen, List.cons_append, replaceFrom_of_none ((blind t ht).trans seen)]
    rfl
  · intro before c s h seen splits
    refine orSwallowed (behind h) fun blind => ?_
    have unseen (t) (ht : T t) := replaceFrom_of_none ((blind t ht).trans seen)
    rw [Splits, last h, replaceFrom_of_none seen]
    refine splits.imp (fun each t ht => ?_) fun ⟨out, all⟩ => ⟨c :: out, fun t ht => ?_⟩
    · rw [List.cons_append, unseen t ht, each t ht, List.cons_append]
    · rw [List.cons_append, unseen t ht, all t ht]
  · intro before c s m h seen splits
    refine orSwallowed (behind h) fun blind => ?_
    have found (t) (ht : T t) := replaceFrom_of_some ((blind t ht).trans seen)
    rw [Splits, last h, replaceFrom_of_some seen]
    refine splits.imp (fun each t ht => ?_) fun ⟨out, all⟩ => ⟨m.replacement ++ out, fun t ht => ?_⟩
    · rw [List.cons_append, found t ht, each t ht, List.append_assoc]
    · rw [List.cons_append, found t ht, all t ht]

/-! ## Where a rule finds nothing, and what it leaves in -/

/-- A rule that matches nowhere in a text leaves the text in front of what is made of the rest. -/
theorem replaceFrom_of_unmatched
    (unmatched : ∀ before u, u ≠ [] → u <:+ s → rule before (u ++ t) = none)
    (before : Option Char) :
    ∃ last, replaceFrom rule before 0 (s ++ t) = s ++ replaceFrom rule last 0 t := by
  induction s generalizing before with
  | nil => exact ⟨before, rfl⟩
  | cons c s ih =>
    have none : rule before (c :: (s ++ t)) = none :=
      unmatched before (c :: s) (List.cons_ne_nil c s) List.suffix_rfl
    obtain ⟨last, later⟩ := ih (fun before u left suffix =>
      unmatched before u left (suffix.trans (List.suffix_cons c s))) (some c)
    exact ⟨last, by rw [List.cons_append, replaceFrom_of_none none, later, List.cons_append]⟩

/-- A text in which a rule matches nowhere stays as it is. -/
theorem replaceFrom_eq_self
    (unmatched : ∀ before u, u ≠ [] → u <:+ s → rule before u = none) (before : Option Char) :
    replaceFrom rule before 0 s = s := by
  obtain ⟨last, kept⟩ := replaceFrom_of_unmatched (s := s) (t := [])
    (fun before u left suffix => (List.append_nil u).symm ▸ unmatched before u left suffix) before
  simpa using kept

/-- **A class of characters is left only for what the rule puts in.** -/
theorem forall_mem_replaceFrom {p : Char → Prop}
    (replaced : ∀ before s m, (∀ c ∈ s, p c) → rule before s = some m → ∀ c ∈ m.replacement, p c)
    {skip : Nat} (h : ∀ c ∈ s, p c) : ∀ c ∈ replaceFrom rule before skip s, p c := by
  induction s generalizing before skip with
  | nil => simp
  | cons c s ih =>
    obtain ⟨head, rest⟩ := List.forall_mem_cons.mp h
    cases skip with
    | succ skip => exact ih rest
    | zero =>
      cases seen : rule before (c :: s) with
      | none =>
        rw [replaceFrom_of_none seen]
        exact List.forall_mem_cons.mpr ⟨head, ih rest⟩
      | some m =>
        rw [replaceFrom_of_some seen]
        exact List.forall_mem_append.mpr ⟨replaced before _ m h seen, ih rest⟩

/-! ## Texts that differ in a value alone -/

section Alike
variable {key : List Char} {Value : List Char → Prop} {s₁ s₂ : List Char}

/-- A value of a class, behind a key. -/
def Behind (key : List Char) (Value : List Char → Prop) (t : List Char) : Prop :=
  ∃ v, Value v ∧ t = key ++ v

/-- **Two texts are alike**: they are the same, or the same but for the value that they end in,
which stands behind a key. -/
inductive Alike (key : List Char) (Value : List Char → Prop) : List Char → List Char → Prop
  | same (s : List Char) : Alike key Value s s
  | behind {front v₁ v₂ : List Char} (apart : front = [] ∨ EndsBlank front) (h₁ : Value v₁)
    (h₂ : Value v₂) : Alike key Value (front ++ (key ++ v₁)) (front ++ (key ++ v₂))

/-- **A rule keeps a key**: it does not match in it, and leaves a value of the class behind it. -/
structure Keeps (rule : Rule) (key : List Char) (Value : List Char → Prop) : Prop where
  steady : Steady rule (Behind key Value)
  unmatched : ∀ before {u v}, u ≠ [] → u <:+ key → Value v → rule before (u ++ v) = none
  closed : ∀ before {v}, Value v → Value (replaceFrom rule before 0 v)

/-- **A rule hides the values behind a key**: it puts the same in place of all of them. -/
structure Hides (rule : Rule) (key : List Char) (Value : List Char → Prop) : Prop where
  steady : Steady rule (Behind key Value)
  named : key ≠ []
  hidden : ∃ r, ∀ before v, Value v → rule before (key ++ v) = some ⟨(key ++ v).length, r⟩

/-- The key is kept, and a value behind it. -/
theorem Keeps.replaceFrom_key (keeps : Keeps rule key Value) (before : Option Char) {v : List Char}
    (h : Value v) : ∃ v', Value v' ∧ replaceFrom rule before 0 (key ++ v) = key ++ v' := by
  obtain ⟨last, kept⟩ := replaceFrom_of_unmatched (t := v)
    (fun before u left suffix => keeps.unmatched before left suffix h) before
  exact ⟨_, keeps.closed last h, kept⟩

/-- **Alike texts stay alike** under a rule that keeps the key. -/
theorem Alike.replaceAll (keeps : Keeps rule key Value) (h : Alike key Value s₁ s₂) :
    Alike key Value (replaceAll rule s₁) (replaceAll rule s₂) := by
  cases h with
  | same => exact .same _
  | @behind front v₁ v₂ apart h₁ h₂ =>
    obtain rfl | blank := apart
    · obtain ⟨v₁', h₁', kept₁⟩ := keeps.replaceFrom_key none h₁
      obtain ⟨v₂', h₂', kept₂⟩ := keeps.replaceFrom_key none h₂
      rw [List.nil_append, List.nil_append, Redact.replaceAll, Redact.replaceAll, kept₁, kept₂]
      exact .behind (.inl rfl) h₁' h₂'
    · obtain each | ⟨out, all⟩ := keeps.steady.splits none blank
      · obtain ⟨v₁', h₁', kept₁⟩ := keeps.replaceFrom_key front.getLast? h₁
        obtain ⟨v₂', h₂', kept₂⟩ := keeps.replaceFrom_key front.getLast? h₂
        rw [Redact.replaceAll, Redact.replaceAll, each _ ⟨v₁, h₁, rfl⟩, each _ ⟨v₂, h₂, rfl⟩, kept₁,
          kept₂]
        exact .behind (.inr (keeps.steady.endsBlank_replaceFrom blank)) h₁' h₂'
      · rw [Redact.replaceAll, Redact.replaceAll, all _ ⟨v₁, h₁, rfl⟩, all _ ⟨v₂, h₂, rfl⟩]
        exact .same out

/-- **Alike texts become the same** under a rule that hides the values. -/
theorem Alike.replaceAll_eq (hides : Hides rule key Value) (h : Alike key Value s₁ s₂) :
    Redact.replaceAll rule s₁ = Redact.replaceAll rule s₂ := by
  obtain ⟨r, hidden⟩ := hides.hidden
  have masked (before : Option Char) {v : List Char} (h : Value v) :
      replaceFrom rule before 0 (key ++ v) = r := by
    obtain ⟨c, rest, split⟩ := List.exists_cons_of_ne_nil hides.named
    have found := hidden before v h
    rw [split, List.cons_append] at found ⊢
    exact replaceFrom_of_swallowed found
  cases h with
  | same => rfl
  | @behind front v₁ v₂ apart h₁ h₂ =>
    obtain rfl | blank := apart
    · exact (masked none h₁).trans (masked none h₂).symm
    · obtain each | ⟨out, all⟩ := hides.steady.splits none blank
      · rw [Redact.replaceAll, Redact.replaceAll, each _ ⟨v₁, h₁, rfl⟩, each _ ⟨v₂, h₂, rfl⟩,
          masked _ h₁, masked _ h₂]
      · rw [Redact.replaceAll, Redact.replaceAll, all _ ⟨v₁, h₁, rfl⟩, all _ ⟨v₂, h₂, rfl⟩]

/-- **A value does not show**, once rules that keep the key are followed by one that hides the
value, whatever rules come then. -/
theorem Alike.foldl_eq {first rest : List Rule} (keeps : ∀ r ∈ first, Keeps r key Value)
    (hides : Hides rule key Value) (h : Alike key Value s₁ s₂) :
    (first ++ rule :: rest).foldl (fun s rule => Redact.replaceAll rule s) s₁ =
      (first ++ rule :: rest).foldl (fun s rule => Redact.replaceAll rule s) s₂ := by
  induction first generalizing s₁ s₂ with
  | nil => rw [List.nil_append, List.foldl_cons, List.foldl_cons, h.replaceAll_eq hides]
  | cons r first ih =>
    obtain ⟨keep, keeps⟩ := List.forall_mem_cons.mp keeps
    exact ih keeps (h.replaceAll keep)

end Alike
end LoginGate.Redact
