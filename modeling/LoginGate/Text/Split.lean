/-!
# Text/Split — cutting a text at a separator

At the first one, at the last one, or at all of them; the separators themselves are dropped.
-/

namespace LoginGate.Text

/-- The parts before and after the first `sep`. -/
def splitFirst? (sep : Char) : List Char → Option (List Char × List Char)
  | [] => none
  | c :: rest =>
    if c = sep then some ([], rest)
    else (splitFirst? sep rest).map fun parts => (c :: parts.1, parts.2)

/-- The parts before and after the last `sep`. -/
def splitLast? (sep : Char) : List Char → Option (List Char × List Char)
  | [] => none
  | c :: rest =>
    match splitLast? sep rest with
    | some parts => some (c :: parts.1, parts.2)
    | none => if c = sep then some ([], rest) else none

/-- All parts, one more than there are separators. -/
def splitAll (sep : Char) : List Char → List (List Char)
  | [] => [[]]
  | c :: rest =>
    if c = sep then [] :: splitAll sep rest
    else
      match splitAll sep rest with
      | part :: parts => (c :: part) :: parts
      | [] => [[c]]

/-- Whether a text occurs in another one. -/
def occursIn (s : List Char) : List Char → Bool
  | [] => s.isEmpty
  | c :: rest => s.isPrefixOf (c :: rest) || occursIn s rest

/-- **What is cut at the first separator joins again**, and the first part has none. -/
theorem splitFirst?_eq_some {sep : Char} {s before after : List Char}
    (h : splitFirst? sep s = some (before, after)) :
    s = before ++ sep :: after ∧ sep ∉ before := by
  induction s generalizing before with
  | nil => simp [splitFirst?] at h
  | cons c rest ih =>
    by_cases hc : c = sep
    · simp only [splitFirst?, hc, if_true, Option.some.injEq, Prod.mk.injEq] at h
      obtain ⟨rfl, rfl⟩ := h
      simp [hc]
    · simp only [splitFirst?, hc, if_false, Option.map_eq_some_iff] at h
      obtain ⟨⟨b, a⟩, hparts, heq⟩ := h
      simp only [Prod.mk.injEq] at heq
      obtain ⟨rfl, rfl⟩ := heq
      obtain ⟨hs, hn⟩ := ih hparts
      exact ⟨by rw [hs]; rfl, by simp [Ne.symm hc, hn]⟩

theorem splitFirst?_append {sep : Char} {before : List Char} (h : sep ∉ before)
    (after : List Char) : splitFirst? sep (before ++ sep :: after) = some (before, after) := by
  induction before with
  | nil => simp [splitFirst?]
  | cons c rest ih =>
    simp only [List.mem_cons, not_or] at h
    simp [splitFirst?, Ne.symm h.1, ih h.2]

theorem splitLast?_eq_none {sep : Char} {s : List Char} :
    splitLast? sep s = none ↔ sep ∉ s := by
  induction s with
  | nil => simp [splitLast?]
  | cons c rest ih =>
    cases hr : splitLast? sep rest with
    | some parts => simp [splitLast?, hr, Classical.not_not.mp (mt ih.mpr (by simp [hr]))]
    | none =>
      by_cases hc : c = sep
      · simp [splitLast?, hr, hc]
      · simp [splitLast?, hr, hc, ih.mp hr, Ne.symm hc]

/-- **What is cut at the last separator joins again**, and the second part has none. -/
theorem splitLast?_eq_some {sep : Char} {s before after : List Char}
    (h : splitLast? sep s = some (before, after)) :
    s = before ++ sep :: after ∧ sep ∉ after := by
  induction s generalizing before with
  | nil => simp [splitLast?] at h
  | cons c rest ih =>
    cases hr : splitLast? sep rest with
    | some parts =>
      simp only [splitLast?, hr, Option.some.injEq, Prod.mk.injEq] at h
      obtain ⟨rfl, rfl⟩ := h
      obtain ⟨hs, hn⟩ := ih hr
      exact ⟨by rw [hs]; rfl, hn⟩
    | none =>
      by_cases hc : c = sep
      · simp only [splitLast?, hr, hc, if_true, Option.some.injEq, Prod.mk.injEq] at h
        obtain ⟨rfl, rfl⟩ := h
        exact ⟨by simp [hc], splitLast?_eq_none.mp hr⟩
      · simp [splitLast?, hr, hc] at h

theorem splitLast?_append {sep : Char} (before : List Char) {after : List Char}
    (h : sep ∉ after) : splitLast? sep (before ++ sep :: after) = some (before, after) := by
  induction before with
  | nil => simp [splitLast?, splitLast?_eq_none.mpr h]
  | cons c rest ih => simp [splitLast?, ih]

/-- **The parts are those of the library's cut**, whose lemmas say how they join again. -/
theorem splitAll_eq_splitOn (sep : Char) (s : List Char) : splitAll sep s = s.splitOn sep := by
  induction s with
  | nil => exact (List.splitOn_nil sep).symm
  | cons c rest ih =>
    obtain ⟨first, others, parts⟩ := List.exists_cons_of_ne_nil (List.splitOn_ne_nil sep rest)
    rw [splitAll, ih, List.splitOn_cons_eq_if_modifyHead, parts]
    simp only [beq_iff_eq, List.modifyHead_cons]

/-- **No part has a separator.** -/
theorem notMem_of_mem_splitOn {sep : Char} {s part : List Char} (h : part ∈ s.splitOn sep) :
    sep ∉ part := by
  induction s generalizing part with
  | nil =>
    rw [List.splitOn_nil, List.mem_singleton] at h
    exact h ▸ List.not_mem_nil
  | cons c rest ih =>
    obtain ⟨first, others, parts⟩ := List.exists_cons_of_ne_nil (List.splitOn_ne_nil sep rest)
    rw [parts] at ih
    rw [List.splitOn_cons_eq_if_modifyHead, parts] at h
    split at h
    · obtain rfl | h := List.mem_cons.mp h
      · exact List.not_mem_nil
      · exact ih h
    · next other =>
      rw [List.modifyHead_cons] at h
      obtain rfl | h := List.mem_cons.mp h
      · have same : sep ≠ c := fun same => other (beq_iff_eq.mpr same.symm)
        exact List.not_mem_cons_of_ne_of_not_mem same (ih List.mem_cons_self)
      · exact ih (List.mem_cons_of_mem _ h)

end LoginGate.Text
