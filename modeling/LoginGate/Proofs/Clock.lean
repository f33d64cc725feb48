import LoginGate.Instant
import Mathlib.Tactic.Ring
import Mathlib.Tactic.Linarith

/-!
# Proofs/Clock — the second that a clock of binary64 seconds shows

The clock keeps an instant as the nearest multiple of a power of two, `m · 2 ^ -k` seconds, and `k`
is as large as 53 bits allow. A whole second is such a multiple, so rounding never takes an instant
across one from above, and from below only if it is nearer than half a unit: nearer than a
microsecond for the instants whose seconds need less than 34 bits, nearer than 16 microseconds for
all dates. Rounding keeps the order, so the clock does not go back.
-/

namespace LoginGate

namespace Binary64

/-- The quotient to the nearest integer is off by no more than a half. -/
theorem divNearest_bounds (num : Nat) {den : Nat} (pos : 0 < den) :
    2 * num ≤ 2 * (divNearest num den * den) + den ∧
      2 * (divNearest num den * den) ≤ 2 * num + den := by
  have split := Nat.div_add_mod num den
  have small := Nat.mod_lt num pos
  have comm : den * (num / den) = num / den * den := Nat.mul_comm ..
  have next : (num / den + 1) * den = num / den * den + den := Nat.succ_mul ..
  simp only [divNearest]
  split_ifs
  · omega
  · rw [next]
    omega
  · omega
  · rw [next]
    omega

/-- Rounding to the nearest integer keeps the order. -/
theorem divNearest_mono {num num' : Nat} (den : Nat) (le : num ≤ num') :
    divNearest num den ≤ divNearest num' den := by
  obtain same | less : num / den = num' / den ∨ num / den < num' / den :=
    Nat.eq_or_lt_of_le (Nat.div_le_div_right le)
  · have split := Nat.div_add_mod num den
    have split' := Nat.div_add_mod num' den
    rw [same] at split
    have more : num % den ≤ num' % den := by omega
    simp only [divNearest, same]
    split_ifs <;> omega
  · -- a quotient that is less by one is rounded up at most to the other one
    have up : divNearest num den ≤ num / den + 1 := by
      simp only [divNearest]
      split_ifs <;> omega
    have down : num' / den ≤ divNearest num' den := by
      simp only [divNearest]
      split_ifs <;> omega
    omega

/-- **The exponent leaves 53 bits**: it is negative for the quotients of clocks, and what is rounded
lies between `2 ^ 52` and `2 ^ 53`. -/
theorem exponentOf_spec {num : Nat} (den : Nat) (pos : 0 < num) (small : num.log2 < den.log2 + 52)
    (moderate : den.log2 < 1000) (divides : den ≠ 0) :
    ∃ k : Nat, exponentOf num den = Int.negSucc k ∧ 2 ^ 52 * den ≤ num * 2 ^ (k + 1) ∧
      num * 2 ^ (k + 1) < 2 ^ 53 * den := by
  obtain ⟨j, sum⟩ : ∃ j, den.log2 + 52 = num.log2 + (j + 1) :=
    ⟨den.log2 + 51 - num.log2, by omega⟩
  have guess : (num.log2 : Int) - den.log2 - 52 = Int.negSucc j := by
    rw [Int.negSucc_eq]
    omega
  have scaled : scaleDown num den (Int.negSucc j) = (num * 2 ^ (j + 1), den) := by
    rw [scaleDown, Nat.shiftLeft_eq]
  unfold exponentOf
  simp only [guess, scaled]
  by_cases low : num * 2 ^ (j + 1) / den < 1 <<< 52
  · refine ⟨j + 1, ?_, ?_, ?_⟩
    · rw [if_pos low, Int.negSucc_eq, Int.negSucc_eq]
      push_cast
      omega
    · have below : den ≤ 2 ^ (den.log2 + 1) := Nat.le_of_lt Nat.lt_log2_self
      have above : 2 ^ num.log2 ≤ num := Nat.log2_self_le (Nat.ne_of_gt pos)
      calc 2 ^ 52 * den ≤ 2 ^ 52 * 2 ^ (den.log2 + 1) := Nat.mul_le_mul_left _ below
        _ = 2 ^ num.log2 * 2 ^ (j + 1 + 1) := by
          rw [← Nat.pow_add, ← Nat.pow_add]
          congr 1
          omega
        _ ≤ num * 2 ^ (j + 1 + 1) := Nat.mul_le_mul_right _ above
    · have scaledLow : num * 2 ^ (j + 1) < 1 <<< 52 * den :=
        (Nat.div_lt_iff_lt_mul (Nat.pos_of_ne_zero divides)).mp low
      rw [Nat.pow_succ 2 (j + 1), ← Nat.mul_assoc]
      omega
  · refine ⟨j, ?_, ?_, ?_⟩
    · rw [if_neg low, Int.negSucc_eq]
      omega
    · exact (Nat.mul_le_mul_right den (Nat.not_lt.mp low)).trans (Nat.div_mul_le_self _ _)
    · have below : num < 2 ^ (num.log2 + 1) := Nat.lt_log2_self
      have above : 2 ^ den.log2 ≤ den := Nat.log2_self_le divides
      calc num * 2 ^ (j + 1) < 2 ^ (num.log2 + 1) * 2 ^ (j + 1) :=
            Nat.mul_lt_mul_of_pos_right below (Nat.two_pow_pos _)
        _ = 2 ^ 53 * 2 ^ den.log2 := by
          rw [← Nat.pow_add, ← Nat.pow_add]
          congr 1
          omega
        _ ≤ 2 ^ 53 * den := Nat.mul_le_mul_left _ above

/-- **Rounding keeps the order**, also where the larger number is rounded in larger units: what is
rounded in units of `2 ^ -k` is no more than the greatest such number, and that is the least one in
larger units. -/
theorem rounded_mono {num num' den k k' : Nat} (le : num ≤ num') (divides : 0 < den)
    (low : 2 ^ 52 * den ≤ num * 2 ^ k) (high : num * 2 ^ k < 2 ^ 53 * den)
    (low' : 2 ^ 52 * den ≤ num' * 2 ^ k') (high' : num' * 2 ^ k' < 2 ^ 53 * den) :
    divNearest (num * 2 ^ k) den * 2 ^ k' ≤ divNearest (num' * 2 ^ k') den * 2 ^ k := by
  have coarser : k' < k + 1 := by
    refine (Nat.pow_lt_pow_iff_right (by decide : 1 < 2)).mp ?_
    by_contra finer
    have scaled : num * 2 ^ (k + 1) ≤ num' * 2 ^ k' := Nat.mul_le_mul le (Nat.not_lt.mp finer)
    rw [Nat.pow_succ, ← Nat.mul_assoc] at scaled
    omega
  obtain rfl | less := Nat.eq_or_lt_of_le (Nat.le_of_lt_succ coarser)
  · exact Nat.mul_le_mul_right _ (divNearest_mono den (Nat.mul_le_mul_right _ le))
  · have full (n : Nat) : divNearest (n * den) den = n := by
      simp [divNearest, divides]
    have top : divNearest (num * 2 ^ k) den ≤ 2 ^ 53 :=
      (divNearest_mono den high.le).trans_eq (full _)
    have bottom : 2 ^ 52 ≤ divNearest (num' * 2 ^ k') den :=
      (full _).symm.trans_le (divNearest_mono den low')
    calc divNearest (num * 2 ^ k) den * 2 ^ k' ≤ 2 ^ 53 * 2 ^ k' := Nat.mul_le_mul_right _ top
      _ = 2 ^ 52 * 2 ^ (k' + 1) := by rw [Nat.pow_succ 2 k']; omega
      _ ≤ 2 ^ 52 * 2 ^ k := Nat.mul_le_mul_left _ (Nat.pow_le_pow_right (by decide) less)
      _ ≤ divNearest (num' * 2 ^ k') den * 2 ^ k := Nat.mul_le_mul_right _ bottom

/-- The floor of a whole number of units below one. -/
theorem floor?_finite (negative : Bool) (m k : Nat) :
    floor? (.finite negative m (Int.negSucc k)) =
      some ((if negative then -(m : Int) else m) / 2 ^ (k + 1)) := by
  rw [floor?]
  simp only [Int.shiftRight_eq_div_pow]
  push_cast
  rfl

/-- A carry into the next exponent leaves the floor as it is. -/
theorem floor?_carry (negative : Bool) (k : Nat) :
    floor? (.finite negative (1 <<< 52) (Int.negSucc k + 1)) =
      some ((if negative then -((1 <<< 53 : Nat) : Int) else (1 <<< 53 : Nat)) / 2 ^ (k + 1)) := by
  cases k with
  | zero => cases negative <;> rfl
  | succ k =>
    rw [show Int.negSucc (k + 1) + 1 = Int.negSucc k from rfl, floor?_finite]
    have half (m : Int) : 2 * m / 2 ^ (k + 1 + 1) = m / 2 ^ (k + 1) := by
      rw [pow_succ' (2 : Int) (k + 1)]
      exact Int.mul_ediv_mul_of_pos m _ (by decide)
    rw [← half]
    cases negative <;> rfl

/-- **A rounded quotient is a whole number of units**, of which the floor is taken. -/
theorem floor?_ofRatio {num den k : Nat} (negative : Bool) (pos : 0 < num)
    (exponent : exponentOf num den = Int.negSucc k) :
    (ofRatio negative num den).floor? =
      some ((if negative then -(divNearest (num * 2 ^ (k + 1)) den : Int)
        else divNearest (num * 2 ^ (k + 1)) den) / 2 ^ (k + 1)) := by
  have scaled : scaleDown num den (Int.negSucc k) = (num * 2 ^ (k + 1), den) := by
    rw [scaleDown, Nat.shiftLeft_eq]
  have bounded : ¬ (971 < Int.negSucc k ∨ Int.negSucc k = 971 ∧
      1 <<< 53 ≤ divNearest (num * 2 ^ (k + 1)) den) := by
    rw [Int.negSucc_eq]
    omega
  rw [ofRatio, if_neg (Nat.ne_of_gt pos)]
  simp only [exponent, scaled]
  rw [if_neg bounded]
  split
  · next carry => rw [floor?_carry, carry]
  · rw [floor?_finite]

end Binary64

namespace Instant

theorem isDate_iff {t : Int} :
    isDate t = true ↔ -62135596800000000 ≤ t ∧ t ≤ 253402300799999999 := by
  rw [isDate, Bool.and_eq_true]
  exact and_congr decide_eq_true_iff decide_eq_true_iff

/-- What lies between two dates is a date. -/
theorem isDate_of_between {t₁ t₂ t₃ : Int} (date₁ : isDate t₁ = true) (date₃ : isDate t₃ = true)
    (le : t₁ ≤ t₂) (le' : t₂ ≤ t₃) : isDate t₂ = true := by
  rw [isDate_iff] at *
  omega

/-- A date that something is added to is one, and so is the sum. -/
theorem plus?_eq_some {t e : Instant} {span : Int} (h : plus? t span = some e) :
    isDate t = true ∧ isDate e = true ∧ e = t + span := by
  unfold plus? at h
  split at h
  · next dates =>
    obtain ⟨before, after⟩ := Bool.and_eq_true _ _ ▸ dates
    obtain rfl := Option.some.inj h
    exact ⟨before, after, rfl⟩
  · exact nomatch h

/-- Every date has less than 38 bits of seconds. -/
theorem natAbs_lt_of_isDate {t : Int} (date : isDate t = true) : t.natAbs < 2 ^ 38 * 1000000 := by
  have range := isDate_iff.mp date
  omega

/-- The clock shows an instant as a whole number of units, which are the larger the more bits its
seconds need. -/
theorem clockSecond_eq {t : Int} (date : isDate t = true) (ne : t ≠ 0) :
    ∃ k : Nat, clockSecond t = (if t < 0
        then -(Binary64.divNearest (t.natAbs * 2 ^ k) 1000000 : Int)
        else Binary64.divNearest (t.natAbs * 2 ^ k) 1000000) / 2 ^ k ∧
      2 ^ 52 * 1000000 ≤ t.natAbs * 2 ^ k ∧ t.natAbs * 2 ^ k < 2 ^ 53 * 1000000 := by
  have pos : 0 < t.natAbs := Int.natAbs_pos.mpr ne
  have den : Nat.log2 1000000 = 19 := by decide
  have range : t.natAbs.log2 < 58 := by
    have bound := natAbs_lt_of_isDate date
    exact (Nat.log2_lt pos.ne').mpr (by omega)
  obtain ⟨k, exponent, normal⟩ :=
    Binary64.exponentOf_spec 1000000 pos (by omega) (by omega) (by decide)
  refine ⟨k + 1, ?_, normal⟩
  rw [clockSecond, Binary64.ofFraction, Binary64.floor?_ofRatio _ pos exponent, Option.getD_some]
  simp only [decide_eq_true_eq]

/-- **What the clock shows**: the floor of an instant in units of `2 ^ -k` seconds, rounded to a
whole number of units. The units are the smaller the fewer bits the seconds need. -/
theorem clockSecond_spec {t : Int} (date : isDate t = true) :
    ∃ (m : Int) (k : Nat), clockSecond t = m / 2 ^ k ∧
      2 * (t * 2 ^ k) ≤ 2 * (m * 1000000) + 1000000 ∧
      2 * (m * 1000000) ≤ 2 * (t * 2 ^ k) + 1000000 ∧
      ∀ b : Nat, t.natAbs < 2 ^ b * 1000000 → 52 < k + b := by
  obtain rfl | ne := eq_or_ne t 0
  · exact ⟨0, 53, rfl, by decide, by decide, fun b _ => by omega⟩
  obtain ⟨k, shown, normal, -⟩ := clockSecond_eq date ne
  obtain ⟨above, below⟩ := Binary64.divNearest_bounds (t.natAbs * 2 ^ k) (by decide : 0 < 1000000)
  generalize Binary64.divNearest (t.natAbs * 2 ^ k) 1000000 = m at shown above below
  have above : 2 * ((t.natAbs : Int) * 2 ^ k) ≤ 2 * (m * 1000000) + 1000000 := by
    exact_mod_cast above
  have below : 2 * ((m : Int) * 1000000) ≤ 2 * (t.natAbs * 2 ^ k) + 1000000 := by
    exact_mod_cast below
  have fine : ∀ b : Nat, t.natAbs < 2 ^ b * 1000000 → 52 < k + b := by
    intro b small
    by_contra few
    have bits : 2 ^ b * 2 ^ k ≤ 2 ^ 52 := by
      rw [← Nat.pow_add]
      exact Nat.pow_le_pow_right (by decide) (by omega)
    have scaled : t.natAbs * 2 ^ k < 2 ^ b * 1000000 * 2 ^ k :=
      Nat.mul_lt_mul_of_pos_right small (Nat.two_pow_pos _)
    have same : 2 ^ b * 1000000 * 2 ^ k = 2 ^ b * 2 ^ k * 1000000 := by ring
    omega
  -- the sign is that of the instant, and it goes along with the rounding
  by_cases negative : t < 0
  · have size : (t.natAbs : Int) = -t := by omega
    rw [size, neg_mul] at above below
    exact ⟨-m, k, by rw [shown, if_pos negative], by omega, by omega, fine⟩
  · have size : (t.natAbs : Int) = t := by omega
    rw [size] at above below
    exact ⟨m, k, by rw [shown, if_neg negative], above, below, fine⟩

/-- **A second that has begun is shown.** -/
theorem le_clockSecond {t : Int} (date : isDate t = true) {n : Int} (begun : n * 1000000 ≤ t) :
    n ≤ clockSecond t := by
  obtain ⟨m, k, shown, above, below, -⟩ := clockSecond_spec date
  have pos : (0 : Int) < 2 ^ k := by positivity
  have scaled : n * 1000000 * 2 ^ k ≤ t * 2 ^ k := Int.mul_le_mul_of_nonneg_right begun pos.le
  have same : n * 1000000 * 2 ^ k = n * 2 ^ k * 1000000 := by ring
  rw [same] at scaled
  rw [shown, Int.le_ediv_iff_mul_le pos]
  omega

/-- A second is not shown as long as more than half a unit is left until it begins. -/
theorem clockSecond_lt_of_margin {t : Int} (date : isDate t = true) {n margin : Int} {b : Nat}
    (bits : t.natAbs < 2 ^ b * 1000000) (left : t + margin ≤ n * 1000000)
    (wide : ∀ k : Nat, 52 < k + b → 1000000 < 2 * (margin * 2 ^ k)) : clockSecond t < n := by
  obtain ⟨m, k, shown, above, below, fine⟩ := clockSecond_spec date
  have pos : (0 : Int) < 2 ^ k := by positivity
  have scaled : (t + margin) * 2 ^ k ≤ n * 1000000 * 2 ^ k :=
    Int.mul_le_mul_of_nonneg_right left pos.le
  have lhs : (t + margin) * 2 ^ k = t * 2 ^ k + margin * 2 ^ k := by ring
  have rhs : n * 1000000 * 2 ^ k = n * 2 ^ k * 1000000 := by ring
  have wide := wide k (fine b bits)
  rw [lhs, rhs] at scaled
  rw [shown, Int.ediv_lt_iff_lt_mul pos]
  omega

/-- **A second is not shown as long as 16 microseconds are left until it begins.** -/
theorem clockSecond_lt {t : Int} (date : isDate t = true) {n : Int}
    (left : t + 16 ≤ n * 1000000) : clockSecond t < n := by
  refine clockSecond_lt_of_margin date (natAbs_lt_of_isDate date) left fun k fine => ?_
  have power : (2 : Int) ^ 15 ≤ 2 ^ k := pow_le_pow_right₀ (by decide) (by omega)
  omega

/-- The floors of two whole numbers of units are in the order of the numbers. -/
theorem floor_mono {m m' : Int} {k k' : Nat} (le : m * 2 ^ k' ≤ m' * 2 ^ k) :
    m / 2 ^ k ≤ m' / 2 ^ k' := by
  have pos : (0 : Int) < 2 ^ k := by positivity
  have pos' : (0 : Int) < 2 ^ k' := by positivity
  rw [Int.le_ediv_iff_mul_le pos']
  refine Int.le_of_mul_le_mul_right ?_ pos
  calc m / 2 ^ k * 2 ^ k' * 2 ^ k = m / 2 ^ k * 2 ^ k * 2 ^ k' := by ring
    _ ≤ m * 2 ^ k' := Int.mul_le_mul_of_nonneg_right (Int.ediv_mul_le m pos.ne') pos'.le
    _ ≤ m' * 2 ^ k := le

/-- **The clock does not go back.** -/
theorem clockSecond_mono {t t' : Int} (date : isDate t = true) (date' : isDate t' = true)
    (le : t ≤ t') : clockSecond t ≤ clockSecond t' := by
  by_cases apart : t ≤ 0 ∧ 0 ≤ t'
  · have before : clockSecond t < 1 := clockSecond_lt date (by omega)
    have after : 0 ≤ clockSecond t' := le_clockSecond date' (by omega)
    omega
  obtain ⟨k, shown, low, high⟩ := clockSecond_eq date (by omega)
  obtain ⟨k', shown', low', high'⟩ := clockSecond_eq date' (by omega)
  rw [shown, shown']
  refine floor_mono ?_
  by_cases negative : t < 0
  · have negative' : t' < 0 := by omega
    rw [if_pos negative, if_pos negative', neg_mul, neg_mul, neg_le_neg_iff]
    exact_mod_cast Binary64.rounded_mono (by omega) (by decide) low' high' low high
  · have positive' : ¬ t' < 0 := by omega
    rw [if_neg negative, if_neg positive']
    exact_mod_cast Binary64.rounded_mono (by omega) (by decide) low high low' high'

/-- **The clock is exact** for 544 years before and after the start of 1970. -/
theorem clockSecond_eq_second {t : Int} (date : isDate t = true)
    (near : t.natAbs < 2 ^ 34 * 1000000) : clockSecond t = second t := by
  have whole : t / 1000000 * 1000000 ≤ t := Int.ediv_mul_le t (by decide)
  have next : t + 1 ≤ (t / 1000000 + 1) * 1000000 := by omega
  have above : clockSecond t < t / 1000000 + 1 := by
    refine clockSecond_lt_of_margin date near next fun k fine => ?_
    have power : (2 : Int) ^ 19 ≤ 2 ^ k := pow_le_pow_right₀ (by decide) (by omega)
    omega
  have below := le_clockSecond date whole
  exact le_antisymm (Int.lt_add_one_iff.mp above) below

/-- The clock rounds no lifetime away before the year 2514, and later none of two seconds. -/
theorem clockSecond_lt_second_add {now lifetime : Int} (date : isDate now = true)
    (lasting : now.natAbs < 2 ^ 34 * 1000000 ∧ perSecond ≤ lifetime ∨ 2 * perSecond ≤ lifetime) :
    clockSecond now < second (now + lifetime) := by
  unfold second
  unfold perSecond at lasting ⊢
  obtain ⟨near, long⟩ | long := lasting
  · rw [clockSecond_eq_second date near, second, perSecond]
    omega
  · exact clockSecond_lt date (by omega)

end Instant
end LoginGate
