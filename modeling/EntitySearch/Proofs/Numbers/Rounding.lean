import EntitySearch.Number.Shortest
import Mathlib

/-!
# Rounding to doubles

A fraction is rounded to a number of units with at most 53 significant bits. It is rounded to a
given number of that kind when it lies between the midpoints to its two neighbours, or on one of
them if the last significant bit is even (`IsNear`): this is `roundUnits_eq`. The lower midpoint is
nearer than the upper one where the number is a power of two, since the doubles below it are twice
as dense; there the fraction is rounded with one bit more.

Only the value of a fraction matters (`ofRatio_congr`), and so only the value of digits with an
exponent (`ofScientific_mul_pow`).

A number with at most 53 significant bits is its own rounding (`roundUnits_of_isExact`), and how
many zeros a number has at its end makes no difference (`roundUnits_mul_pow`). So a whole number
becomes the double for the nearest whole number with 53 significant bits (`ofInt_eq`).
-/

namespace EntitySearch.Double

theorem one_pos : 0 < one := by decide +kernel

theorem one_eq_pow : one = 2 ^ 1074 := by decide +kernel

/-! ### The nearest whole number -/

section Nearest

variable {n d m : Nat}

/-- **The nearest whole number**, which is the even one on a tie. -/
theorem divideEven_eq (low : 2 * (m * d) ≤ 2 * n + d) (high : 2 * n ≤ 2 * (m * d) + d)
    (tie : 2 * (m * d) = 2 * n + d ∨ 2 * n = 2 * (m * d) + d → m % 2 = 0) (positive : 0 < d) :
    divideEven n d = m := by
  have whole : d * (n / d) + n % d = n := Nat.div_add_mod n d
  have rest : n % d < d := Nat.mod_lt n positive
  -- the quotient is the whole number or the one below it
  have above : n / d < m + 1 := by
    by_contra more
    have product : d * (m + 1) ≤ d * (n / d) := Nat.mul_le_mul_left d (Nat.not_lt.1 more)
    rw [Nat.mul_add, Nat.mul_comm d m] at product
    omega
  have below : m < n / d + 2 := by
    by_contra less
    have product : d * (n / d + 2) ≤ d * m := Nat.mul_le_mul_left d (Nat.not_lt.1 less)
    rw [Nat.mul_add, Nat.mul_comm d m] at product
    omega
  rw [divideEven]
  simp only [Bool.or_eq_true, decide_eq_true_eq, Bool.and_eq_true, beq_iff_eq]
  rcases Nat.lt_or_ge (n / d) m with less | more
  · -- it is the whole number above the quotient
    obtain rfl : m = n / d + 1 := by omega
    rw [Nat.add_mul, Nat.mul_comm _ d] at low tie
    rw [if_neg]
    rintro (small | ⟨half, even⟩)
    · omega
    · have := tie (Or.inl (by omega))
      omega
  · -- it is the quotient itself
    obtain rfl : m = n / d := by omega
    rw [Nat.mul_comm _ d] at high tie
    rw [if_pos]
    by_cases half : 2 * (n % d) = d
    · exact Or.inr ⟨half, tie (Or.inr (by omega))⟩
    · exact Or.inl (by omega)

/-- Only the value of a fraction matters. -/
theorem divideEven_mul (n d : Nat) {k : Nat} (positive : 0 < k) :
    divideEven (n * k) (d * k) = divideEven n d := by
  have less : 2 * (n % d * k) < d * k ↔ 2 * (n % d) < d := by
    rw [← Nat.mul_assoc]
    exact Nat.mul_lt_mul_right positive
  have same : 2 * (n % d * k) = d * k ↔ 2 * (n % d) = d := by
    rw [← Nat.mul_assoc]
    exact Nat.mul_left_inj (Nat.ne_of_gt positive)
  rw [divideEven, divideEven, Nat.mul_div_mul_right _ _ positive, Nat.mul_mod_mul_right]
  simp only [less, same, Bool.or_eq_true, decide_eq_true_eq, Bool.and_eq_true, beq_iff_eq]

theorem divideEven_le (n d : Nat) : divideEven n d ≤ n / d + 1 := by
  rw [divideEven]
  split
  · exact Nat.le_succ _
  · exact Nat.le_refl _

end Nearest

/-! ### Doubles -/

section Exact

variable {units n : Nat}

/-- **A number of units with at most 53 significant bits.** -/
def IsExact (units : Nat) : Prop := 2 ^ excessBits units ∣ units

/-- The bits of a number are those inside the 53 significant ones, and the excess ones. -/
theorem lt_pow_excessBits (units : Nat) : units < 2 ^ (53 + excessBits units) := by
  have bits : units < 2 ^ (units.log2 + 1) := Nat.lt_log2_self
  have more : 2 ^ (units.log2 + 1) ≤ 2 ^ (53 + excessBits units) :=
    Nat.pow_le_pow_right (by decide) (by rw [excessBits]; omega)
  omega

theorem pow_excessBits_le (excess : 0 < excessBits units) :
    2 ^ (52 + excessBits units) ≤ units := by
  rw [excessBits] at excess ⊢
  have nonzero : units ≠ 0 := by
    rintro rfl
    cases excess
  have bits : 52 + (units.log2 - 52) = units.log2 := by omega
  rw [bits]
  exact Nat.log2_self_le nonzero

theorem excessBits_eq {k : Nat} (low : 2 ^ (52 + k) ≤ n) (high : n < 2 ^ (53 + k)) :
    excessBits n = k := by
  have nonzero : n ≠ 0 := by
    rintro rfl
    have := Nat.two_pow_pos (52 + k)
    omega
  have bits : n.log2 = 52 + k := (Nat.log2_eq_iff nonzero).2 ⟨low, by
    rwa [Nat.add_right_comm]⟩
  rw [excessBits, bits]
  omega

theorem excessBits_eq_zero (small : n < 2 ^ 53) : excessBits n = 0 := by
  rcases Nat.eq_zero_or_pos n with rfl | positive
  · rfl
  · have bits : n.log2 < 53 := (Nat.log2_lt (Nat.ne_of_gt positive)).2 small
    rw [excessBits]
    omega

/-- **Rounding gives a double.** -/
theorem isExact_roundUnits (n d : Nat) : IsExact (roundUnits n d) := by
  generalize excess : excessBits (n / d) = k
  have step : roundUnits n d = divideEven n (d * 2 ^ k) * 2 ^ k := by
    rw [roundUnits, excess]
    rfl
  -- the quotient has 53 bits left, so rounding it gives at most the next power of two
  have quotient : n / (d * 2 ^ k) < 2 ^ 53 := by
    rw [← Nat.div_div_eq_div_mul, Nat.div_lt_iff_lt_mul (Nat.two_pow_pos k), ← Nat.pow_add,
      ← excess]
    exact lt_pow_excessBits (n / d)
  have bound : divideEven n (d * 2 ^ k) ≤ 2 ^ 53 := (divideEven_le _ _).trans quotient
  rw [step, IsExact]
  rcases Nat.lt_or_eq_of_le bound with less | full
  · -- no more bits are in excess than before
    have small : divideEven n (d * 2 ^ k) * 2 ^ k < 2 ^ (53 + k) := by
      rw [Nat.pow_add]
      exact (Nat.mul_lt_mul_right (Nat.two_pow_pos k)).2 less
    refine (Nat.pow_dvd_pow 2 ?_).trans (Nat.dvd_mul_left _ _)
    generalize divideEven n (d * 2 ^ k) * 2 ^ k = r at small
    rcases Nat.eq_zero_or_pos r with rfl | positive
    · exact Nat.zero_le k
    · have bits : r.log2 < 53 + k := (Nat.log2_lt (Nat.ne_of_gt positive)).2 small
      rw [excessBits]
      omega
  · -- rounded up to the next power of two
    rw [full, ← Nat.pow_add, excessBits, Nat.log2_two_pow]
    exact Nat.pow_dvd_pow 2 (by omega)

/-- **Whether a fraction is rounded to a double**: it lies between the midpoints to the neighbours,
or on one of them if the last significant bit is even. All are taken in quarters of a unit. -/
def IsNear (units n d : Nat) : Prop :=
  let step := 2 ^ excessBits units
  let below := if units = 2 ^ 52 * step ∧ 1 < step then step else 2 * step
  if units / step % 2 = 0 then (4 * units - below) * d ≤ 4 * n ∧ 4 * n ≤ (4 * units + 2 * step) * d
  else (4 * units - below) * d < 4 * n ∧ 4 * n < (4 * units + 2 * step) * d

end Exact

section Near

variable {units n d : Nat}

/-- What is near lies between the midpoints, which count if the last significant bit is even. -/
theorem IsNear.bounds {step below : Nat} (near : IsNear units n d)
    (steps : step = 2 ^ excessBits units)
    (lower : below = if units = 2 ^ 52 * step ∧ 1 < step then step else 2 * step) :
    (4 * units - below) * d ≤ 4 * n ∧ 4 * n ≤ (4 * units + 2 * step) * d ∧
      ((4 * units - below) * d = 4 * n ∨ 4 * n = (4 * units + 2 * step) * d →
        units / step % 2 = 0) := by
  rw [IsNear, ← steps, ← lower] at near
  split at near
  · next even => exact ⟨near.1, near.2, fun _ => even⟩
  · exact ⟨Nat.le_of_lt near.1, Nat.le_of_lt near.2, fun same => by omega⟩

theorem excessBits_div {k : Nat} (positive : 0 < d) (low : 2 ^ (52 + k) * d ≤ n)
    (high : n < 2 ^ (53 + k) * d) : excessBits (n / d) = k :=
  excessBits_eq ((Nat.le_div_iff_mul_le positive).2 low) ((Nat.div_lt_iff_lt_mul positive).2 high)

/-- **Rounding to steps.** With the excess bits `k`, a fraction is rounded to the nearest of the
numbers `m * 2 ^ k`. So many bits are in excess where the quotient has 53 more of them. -/
theorem roundUnits_eq_mul {k m S : Nat} (steps : d * 2 ^ k = S) (positive : 0 < d)
    (first : 0 < k → 2 ^ 52 * S ≤ n) (last : n < 2 ^ 53 * S) (low : 2 * (m * S) ≤ 2 * n + S)
    (high : 2 * n ≤ 2 * (m * S) + S)
    (tie : 2 * (m * S) = 2 * n + S ∨ 2 * n = 2 * (m * S) + S → m % 2 = 0) :
    roundUnits n d = m * 2 ^ k := by
  have number (j : Nat) : 2 ^ (j + k) * d = 2 ^ j * S := by
    rw [← steps, Nat.pow_add, Nat.mul_assoc, Nat.mul_comm d]
  -- the bounds on the fraction say how many bits its quotient has
  have excess : excessBits (n / d) = k := by
    rcases Nat.eq_zero_or_pos k with rfl | more
    · refine excessBits_eq_zero ((Nat.div_lt_iff_lt_mul positive).2 ?_)
      rwa [← Nat.mul_one d, ← Nat.pow_zero 2, steps]
    · exact excessBits_div positive ((number 52).trans_le (first more))
        (last.trans_eq (number 53).symm)
  have wide : 0 < S := steps ▸ Nat.mul_pos positive (Nat.two_pow_pos k)
  rw [roundUnits, excess]
  change divideEven n (d * 2 ^ k) * 2 ^ k = m * 2 ^ k
  rw [steps, divideEven_eq low high tie wide]

/-- Below a power of two the steps are half as wide. -/
theorem roundUnits_eq_pow {k S : Nat} (steps : d * 2 ^ k = S) (positive : 0 < d) (more : 0 < k)
    (low : 4 * (2 ^ 52 * S) ≤ 4 * n + S) (less : n < 2 ^ 52 * S) :
    roundUnits n d = 2 ^ 52 * 2 ^ k := by
  -- there the units are counted in half steps, of which there are twice as many
  obtain ⟨j, rfl⟩ : ∃ j, k = j + 1 := Nat.exists_eq_succ_of_ne_zero (Nat.ne_of_gt more)
  obtain ⟨H, halves⟩ : ∃ H, d * 2 ^ j = H := ⟨_, rfl⟩
  obtain rfl : S = 2 * H := by rw [← steps, Nat.pow_succ, ← Nat.mul_assoc, halves, Nat.mul_comm]
  refine (roundUnits_eq_mul halves positive (m := 2 ^ 53) ?_ ?_ ?_ ?_ ?_).trans ?_
  · omega
  · omega
  · omega
  · omega
  · exact fun _ => rfl
  · rw [Nat.pow_succ 2 j, Nat.pow_succ 2 52]
    ring

/-- **A fraction near a double is rounded to it.** -/
theorem roundUnits_eq (exact_ : IsExact units) (positive : 0 < d)
    (near : IsNear units n d) : roundUnits n d = units := by
  obtain ⟨k, excess⟩ : ∃ k, excessBits units = k := ⟨_, rfl⟩
  obtain ⟨m, rfl⟩ : ∃ m, units = m * 2 ^ k := by
    rw [IsExact, excess] at exact_
    exact dvd_iff_exists_eq_mul_left.1 exact_
  obtain ⟨low, high, tie⟩ := near.bounds (congrArg (2 ^ ·) excess.symm) rfl
  have one_le := Nat.two_pow_pos k
  rw [Nat.mul_div_cancel m one_le] at tie
  -- the number has 53 bits, and the first of them is set if there are more
  have bits := lt_pow_excessBits (m * 2 ^ k)
  rw [excess, Nat.pow_add, Nat.mul_lt_mul_right one_le] at bits
  have first : 0 < k → 2 ^ 52 ≤ m := by
    intro more
    have large := pow_excessBits_le (excess.symm ▸ more)
    rw [excess, Nat.pow_add] at large
    exact Nat.le_of_mul_le_mul_right large one_le
  -- all is counted in the number itself and in steps, each times the denominator
  obtain ⟨S, steps⟩ : ∃ S, d * 2 ^ k = S := ⟨_, rfl⟩
  have number (j : Nat) : j * 2 ^ k * d = j * S := by rw [← steps, Nat.mul_assoc, Nat.mul_comm d]
  have below (j : Nat) : (4 * (m * 2 ^ k) - j * 2 ^ k) * d = 4 * (m * S) - j * S := by
    rw [Nat.sub_mul, Nat.mul_assoc 4, number, number]
  have above : (4 * (m * 2 ^ k) + 2 * 2 ^ k) * d = 4 * (m * S) + 2 * S := by
    rw [Nat.add_mul, Nat.mul_assoc 4, number, number]
  rw [above] at high tie
  have last : n < 2 ^ 53 * S := by
    have next : (m + 1) * S ≤ 2 ^ 53 * S := Nat.mul_le_mul_right S bits
    have wide : 0 < S := steps ▸ Nat.mul_pos positive one_le
    rw [Nat.add_mul] at next
    omega
  by_cases boundary : m * 2 ^ k = 2 ^ 52 * 2 ^ k ∧ 1 < 2 ^ k
  · -- at a power of two the steps below are half as wide
    obtain ⟨same, more⟩ := boundary
    obtain rfl : m = 2 ^ 52 := Nat.eq_of_mul_eq_mul_right one_le same
    have alone : (4 * (2 ^ 52 * 2 ^ k) - 2 ^ k) * d = 4 * (2 ^ 52 * S) - S := by
      simpa only [Nat.one_mul] using below 1
    rw [if_pos ⟨rfl, more⟩, alone] at low
    rcases Nat.lt_or_ge n (2 ^ 52 * S) with less | enough
    · have excessive : 0 < k := Nat.pos_of_ne_zero (by rintro rfl; omega)
      exact roundUnits_eq_pow steps positive excessive (by omega) less
    · exact roundUnits_eq_mul steps positive (fun _ => enough) last (by omega) (by omega)
        fun _ => rfl
  · rw [if_neg boundary, below 2] at low tie
    refine roundUnits_eq_mul steps positive (fun more => ?_) last (by omega) (by omega) ?_
    · -- the number is more than the power of two, and the fraction less than a step below
      have other : m ≠ 2 ^ 52 := by
        rintro rfl
        exact boundary ⟨rfl, Nat.one_lt_two_pow (Nat.ne_of_gt more)⟩
      have next : (2 ^ 52 + 1) * S ≤ m * S :=
        Nat.mul_le_mul_right S (Nat.lt_of_le_of_ne (first more) (Ne.symm other))
      rw [Nat.add_mul] at next
      omega
    · rintro (same | same)
      · exact tie (Or.inl (by omega))
      · exact tie (Or.inr (by omega))

end Near

/-! ### Fractions and digits of one value -/

section Values

variable {n d n' d' : Nat}

theorem roundUnits_mul (n d : Nat) {k : Nat} (positive : 0 < k) :
    roundUnits (n * k) (d * k) = roundUnits n d := by
  unfold roundUnits
  rw [Nat.mul_div_mul_right _ _ positive]
  simp only [Nat.mul_right_comm d k, divideEven_mul _ _ positive]

/-- **Equal fractions are rounded to one double.** -/
theorem ofRatio_congr (negative : Bool) (positive : 0 < d) (positive' : 0 < d')
    (same : n * d' = n' * d) : ofRatio negative n d = ofRatio negative n' d' := by
  have cross : n * one * d' = n' * one * d := by rw [Nat.mul_right_comm, same, Nat.mul_right_comm]
  rw [ofRatio, ofRatio, ← roundUnits_mul (n * one) d positive', cross, Nat.mul_comm d,
    roundUnits_mul _ _ positive]

/-- A number with digits in the range of the powers of ten is a fraction. -/
theorem ofScientific_eq (negative : Bool) {digits : Nat} {exponent : Int} (nonzero : digits ≠ 0)
    (low : -400 ≤ (Number.natDigits digits).length + exponent)
    (high : (Number.natDigits digits).length + exponent ≤ 400) :
    ofScientific negative digits exponent =
      ofRatio negative (digits * 10 ^ exponent.toNat) (10 ^ (-exponent).toNat) := by
  rw [ofScientific, if_neg nonzero]
  simp only [Int.not_lt.2 high, Int.not_lt.2 low, ↓reduceIte]
  -- one of the two powers of ten is one
  split
  · next whole =>
    have none : (-exponent).toNat = 0 := by omega
    rw [none]
    rfl
  · next places =>
    have none : exponent.toNat = 0 := by omega
    rw [none, Nat.pow_zero, Nat.mul_one]
    rfl

/-- A product with a power of ten has so many zeros at its end. -/
theorem natDigits_mul_pow {c : Nat} (positive : 0 < c) (k : Nat) :
    Number.natDigits (c * 10 ^ k) = Number.natDigits c ++ List.replicate k '0' := by
  induction k with
  | zero => rw [Nat.pow_zero, Nat.mul_one, List.replicate_zero, List.append_nil]
  | succ k ih =>
    have more : 0 < c * 10 ^ k := Nat.mul_pos positive (by positivity)
    have digit := Nat.toDigits_append_toDigits (b := 10) (d := 0) (by decide) more (by decide)
    rw [Nat.add_zero, Nat.mul_comm 10, Nat.mul_assoc, ← Nat.pow_succ] at digit
    rw [Number.natDigits, ← digit, List.replicate_succ', ← List.append_assoc, ← ih]
    rfl

theorem length_natDigits_mul_pow {c : Nat} (positive : 0 < c) (k : Nat) :
    (Number.natDigits (c * 10 ^ k)).length = (Number.natDigits c).length + k := by
  rw [natDigits_mul_pow positive, List.length_append, List.length_replicate]

/-- **Zeros at the end of the digits belong to the exponent.** -/
theorem ofScientific_mul_pow (negative : Bool) (c k : Nat) (exponent : Int) :
    ofScientific negative (c * 10 ^ k) exponent = ofScientific negative c (exponent + k) := by
  rcases Nat.eq_zero_or_pos c with rfl | positive
  · rw [Nat.zero_mul]
    rfl
  have nonzero : c ≠ 0 := Nat.ne_of_gt positive
  have nonzero' : c * 10 ^ k ≠ 0 := Nat.mul_ne_zero nonzero (by positivity)
  have length := length_natDigits_mul_pow positive k
  by_cases range : -400 ≤ ((Number.natDigits c).length : Int) + (exponent + k) ∧
      ((Number.natDigits c).length : Int) + (exponent + k) ≤ 400
  · -- in range, both are rounded from one fraction
    rw [ofScientific_eq negative nonzero range.1 range.2,
      ofScientific_eq negative nonzero' (by omega) (by omega)]
    refine ofRatio_congr negative (by positivity) (by positivity) ?_
    rw [Nat.mul_assoc, Nat.mul_assoc, Nat.mul_assoc, ← Nat.pow_add, ← Nat.pow_add, ← Nat.pow_add]
    congr 2
    omega
  · -- out of range, both overflow or both vanish
    have same : ((Number.natDigits (c * 10 ^ k)).length : Int) + exponent =
        (Number.natDigits c).length + (exponent + k) := by omega
    rw [ofScientific, ofScientific, if_neg nonzero, if_neg nonzero']
    simp only [same]
    split
    · rfl
    · rw [if_pos (by omega), if_pos (by omega)]

end Values

/-! ### Whole numbers -/

section Whole

variable {n : Nat}

theorem roundUnits_one (n : Nat) :
    roundUnits n 1 = divideEven n (2 ^ excessBits n) * 2 ^ excessBits n := by
  unfold roundUnits
  rw [Nat.div_one]
  simp only [Nat.one_mul]
  rfl

/-- What has at most 53 significant bits is its own rounding. -/
theorem roundUnits_of_isExact (whole : IsExact n) : roundUnits n 1 = n := by
  have none : n % 2 ^ excessBits n = 0 := Nat.mod_eq_zero_of_dvd whole
  have quotient : divideEven n (2 ^ excessBits n) = n / 2 ^ excessBits n := by
    rw [divideEven, none, if_pos]
    simp
  rw [roundUnits_one, quotient, Nat.div_mul_cancel whole]

theorem isExact_of_lt (small : n < 2 ^ 53) : IsExact n := by
  rw [IsExact, excessBits_eq_zero small]
  exact one_dvd n

/-- Zeros at the end of a number are bits in excess once there are 53 others. -/
theorem excessBits_mul_pow (many : 2 ^ 52 ≤ n) (k : Nat) :
    excessBits (n * 2 ^ k) = excessBits n + k := by
  have low : 2 ^ (52 + excessBits n) ≤ n := by
    rcases Nat.eq_zero_or_pos (excessBits n) with none | excess
    · rwa [none]
    · exact pow_excessBits_le excess
  refine excessBits_eq ?_ ?_
  · rw [← Nat.add_assoc, Nat.pow_add]
    exact Nat.mul_le_mul_right _ low
  · rw [← Nat.add_assoc, Nat.pow_add]
    exact (Nat.mul_lt_mul_right (Nat.two_pow_pos k)).2 (lt_pow_excessBits n)

/-- **Zeros at the end of a number** make no difference to its rounding. -/
theorem roundUnits_mul_pow (n k : Nat) : roundUnits (n * 2 ^ k) 1 = roundUnits n 1 * 2 ^ k := by
  rcases Nat.lt_or_ge n (2 ^ 53) with small | large
  · -- with 53 bits at most nothing is rounded on either side
    have bits : n * 2 ^ k < 2 ^ (53 + k) := by
      rw [Nat.pow_add]
      exact (Nat.mul_lt_mul_right (Nat.two_pow_pos k)).2 small
    have whole : IsExact (n * 2 ^ k) := by
      refine (Nat.pow_dvd_pow 2 ?_).trans (Nat.dvd_mul_left _ _)
      rcases Nat.eq_zero_or_pos (n * 2 ^ k) with none | positive
      · rw [none]
        exact Nat.zero_le k
      · have log : (n * 2 ^ k).log2 < 53 + k := (Nat.log2_lt (Nat.ne_of_gt positive)).2 bits
        rw [excessBits]
        omega
    rw [roundUnits_of_isExact whole, roundUnits_of_isExact (isExact_of_lt small)]
  · -- with more bits, the excess grows by the zeros, and the quotient stays the same
    have many : 2 ^ 52 ≤ n := (Nat.pow_le_pow_right (by decide) (by decide)).trans large
    rw [roundUnits_one, roundUnits_one, excessBits_mul_pow many, Nat.pow_add,
      divideEven_mul _ _ (Nat.two_pow_pos k), Nat.mul_assoc]

/-- A number is at most doubled by rounding. -/
theorem roundUnits_le (n : Nat) : roundUnits n 1 ≤ 2 * n := by
  rcases Nat.lt_or_ge n (2 ^ 53) with small | large
  · rw [roundUnits_of_isExact (isExact_of_lt small)]
    omega
  · -- a step is no more than the number, and rounding goes up by one step at most
    have step : 2 ^ excessBits n ≤ n := by
      rcases Nat.eq_zero_or_pos (excessBits n) with none | excess
      · rw [none]
        omega
      · exact (Nat.pow_le_pow_right (by decide) (Nat.le_add_left _ 52)).trans
          (pow_excessBits_le excess)
    calc
      roundUnits n 1 = divideEven n (2 ^ excessBits n) * 2 ^ excessBits n := roundUnits_one n
      _ ≤ (n / 2 ^ excessBits n + 1) * 2 ^ excessBits n :=
        Nat.mul_le_mul_right _ (divideEven_le _ _)
      _ = n / 2 ^ excessBits n * 2 ^ excessBits n + 2 ^ excessBits n := Nat.succ_mul _ _
      _ ≤ n + n := Nat.add_le_add (Nat.div_mul_le_self _ _) step
      _ = 2 * n := (Nat.two_mul n).symm

/-- **The double nearest to a whole number** is the nearest one with 53 significant bits. -/
theorem ofInt_eq {n : Int} (small : n.natAbs ≤ 2 ^ 64) :
    ofInt n = finite (n < 0) (roundUnits n.natAbs 1 * one) := by
  have units : roundUnits (n.natAbs * one) 1 = roundUnits n.natAbs 1 * one := by
    rw [one_eq_pow, roundUnits_mul_pow]
  have range : roundUnits n.natAbs 1 * one < limit :=
    calc
      roundUnits n.natAbs 1 * one ≤ 2 * n.natAbs * one :=
        Nat.mul_le_mul_right _ (roundUnits_le n.natAbs)
      _ ≤ 2 * 2 ^ 64 * one := Nat.mul_le_mul_right _ (Nat.mul_le_mul_left _ small)
      _ < limit := by decide +kernel
  rw [ofInt, ofRatio, units, ofUnits, if_pos range]

end Whole

end EntitySearch.Double
