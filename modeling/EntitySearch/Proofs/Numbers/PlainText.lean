import EntitySearch.Number.Shortest
import EntitySearch.Proofs.Numbers.Rounding
import Mathlib

/-!
# Plain text of doubles

The plain text of a double is read as this double (`read?_plain`). The text is made of the shortest
decimals that lie nearer to the double than to its neighbours. Seventeen digits are enough for that:
the steps of seventeen digits are finer than those of doubles, so one of the two decimals around the
double is near (`exists_withDigits?`). Reading rounds whatever is near a double to this double
(`ofScientific_of_isNear`), and the three forms of the text are read as its decimals
(`readMagnitude?_positional`).
-/

namespace EntitySearch.Double

/-! ### Doubles -/

theorem limit_pos : 0 < limit := by decide +kernel

/-- **A double proper**: a finite number is in the range and has at most 53 significant bits. -/
inductive IsDouble : Double → Prop
  | nan : IsDouble .nan
  | infinite (negative : Bool) : IsDouble (.infinite negative)
  | finite (negative : Bool) {units : Nat} (bounded : units < limit) (exact_ : IsExact units) :
    IsDouble (.finite negative units)

section Doubles

theorem isDouble_zero (negative : Bool) : IsDouble (.finite negative 0) :=
  .finite negative limit_pos (one_dvd 0)

theorem isDouble_ofRatio (negative : Bool) (n d : Nat) : IsDouble (ofRatio negative n d) := by
  rw [ofRatio, ofUnits]
  split
  · next bounded => exact .finite negative bounded (isExact_roundUnits _ _)
  · exact .infinite negative

theorem isDouble_ofScientific (negative : Bool) (digits : Nat) (exponent : Int) :
    IsDouble (ofScientific negative digits exponent) := by
  unfold ofScientific
  split
  · exact isDouble_zero negative
  · dsimp only
    split_ifs
    · exact .infinite negative
    · exact isDouble_zero negative
    · exact isDouble_ofRatio _ _ _
    · exact isDouble_ofRatio _ _ _

variable {x : Double} {s : List Char}

theorem isDouble_of_readUnsigned? {negative : Bool} (read : readUnsigned? negative s = some x) :
    IsDouble x := by
  unfold readUnsigned? readMagnitude? at read
  dsimp only at read
  split_ifs at read
  · cases read
    exact .infinite negative
  · cases read
    exact .nan
  · obtain ⟨exponent, -, rfl⟩ := Option.map_eq_some_iff.1 read
    exact isDouble_ofScientific _ _ _

/-- **What is read is a double.** -/
theorem isDouble_of_read? (read : read? s = some x) : IsDouble x := by
  unfold read? at read
  split at read <;> exact isDouble_of_readUnsigned? read

end Doubles

/-! ### Decimals near a double -/

section Near

variable {units : Nat}

theorem step_le (exact_ : IsExact units) (some : 0 < units) : 2 ^ excessBits units ≤ units :=
  Nat.le_of_dvd some exact_

/-- A fraction strictly between the midpoints is near. -/
theorem isNear_of_lt {n d step below : Nat} (steps : step = 2 ^ excessBits units)
    (lower : below = if units = 2 ^ 52 * step ∧ 1 < step then step else 2 * step)
    (low : (4 * units - below) * d < 4 * n) (high : 4 * n < (4 * units + 2 * step) * d) :
    IsNear units n d := by
  rw [IsNear, ← steps, ← lower]
  split
  · exact ⟨Nat.le_of_lt low, Nat.le_of_lt high⟩
  · exact ⟨low, high⟩

/-- Decimals read back as a number of units when they are near it. -/
theorem readsBack_iff {exponent : Int} {count : Nat} :
    readsBack units exponent count = true ↔
      IsNear units (count * 10 ^ exponent.toNat * one) (10 ^ (-exponent).toNat) := by
  -- one of both powers is one, whatever the sign of the exponent is
  have fraction : (if 0 ≤ exponent then (4 * count * (one * Nat.pow 10 exponent.toNat), 1)
      else (4 * count * one, Nat.pow 10 (-exponent).toNat)) =
      (4 * (count * 10 ^ exponent.toNat * one), 10 ^ (-exponent).toNat) := by
    split
    · have none : (-exponent).toNat = 0 := by omega
      rw [none, Nat.pow_zero, Nat.pow_eq]
      exact Prod.ext (by ring) rfl
    · have none : exponent.toNat = 0 := by omega
      rw [none, Nat.pow_zero, Nat.pow_eq]
      exact Prod.ext (by ring) rfl
  unfold readsBack
  rw [fraction, IsNear]
  dsimp only
  simp only [Nat.pow_eq, Bool.and_eq_true, decide_eq_true_eq]
  split <;> simp only [Bool.and_eq_true, decide_eq_true_eq]

theorem pow_length_natDigits_le {c : Nat} (positive : 0 < c) :
    10 ^ ((Number.natDigits c).length - 1) ≤ c := by
  rcases Nat.eq_zero_or_pos ((Number.natDigits c).length - 1) with zero | more
  · rw [zero]
    exact positive
  · refine Nat.not_lt.1 fun less => ?_
    have short := (Nat.length_toDigits_le_iff (by decide) more).2 less
    have some : 0 < (Number.natDigits c).length := Nat.length_toDigits_pos
    exact absurd short (by rw [← Number.natDigits]; omega)

theorem lt_pow_length_natDigits (c : Nat) : c < 10 ^ (Number.natDigits c).length :=
  (Nat.length_toDigits_le_iff (by decide) Nat.length_toDigits_pos).1 (Nat.le_refl _)

/-- What is near a number is at least half as great and at most by half greater. -/
theorem IsNear.within {n d : Nat} (near : IsNear units n d) (exact_ : IsExact units)
    (some : 0 < units) : units * d ≤ 2 * n ∧ 2 * n ≤ 3 * (units * d) := by
  obtain ⟨low, high, -⟩ := near.bounds rfl rfl
  have step := step_le exact_ some
  constructor
  · have least : 2 * units * d ≤ (4 * units -
        if units = 2 ^ 52 * 2 ^ excessBits units ∧ 1 < 2 ^ excessBits units then
          2 ^ excessBits units else 2 * 2 ^ excessBits units) * d := by
      refine Nat.mul_le_mul_right d ?_
      split <;> omega
    rw [Nat.mul_assoc] at least
    omega
  · have most : (4 * units + 2 * 2 ^ excessBits units) * d ≤ 6 * units * d :=
      Nat.mul_le_mul_right d (by omega)
    rw [Nat.mul_assoc 6] at most
    omega

/-- The range of doubles is far inside the range of the powers of ten. -/
theorem three_mul_limit_le : 3 * limit ≤ 2 * (one * 10 ^ 309) := by decide +kernel

theorem two_mul_one_le : 2 * one ≤ 10 ^ 325 := by decide +kernel

/-- The digits of decimals near a double are in the range of the powers of ten. -/
theorem IsNear.digits {e f count : Nat} (near : IsNear units (count * 10 ^ e * one) (10 ^ f))
    (exact_ : IsExact units) (some : 0 < units) (bounded : units < limit) :
    0 < count ∧ (Number.natDigits count).length + e ≤ 310 + f ∧
      f < (Number.natDigits count).length + e + 325 := by
  obtain ⟨low, high⟩ := near.within exact_ some
  -- what is near a double is neither much less than it nor much more
  have above : 10 ^ f ≤ count * 10 ^ e * 10 ^ 325 := by
    calc 10 ^ f
      _ ≤ units * 10 ^ f := Nat.le_mul_of_pos_left _ some
      _ ≤ count * 10 ^ e * (2 * one) := by rw [Nat.mul_left_comm]; exact low
      _ ≤ count * 10 ^ e * 10 ^ 325 := Nat.mul_le_mul_left _ two_mul_one_le
  have positive : 0 < count := by
    refine Nat.pos_of_ne_zero ?_
    rintro rfl
    rw [Nat.zero_mul, Nat.zero_mul] at above
    exact absurd above (Nat.not_le.2 (by positivity))
  have less : count * 10 ^ e ≤ 10 ^ 309 * 10 ^ f := by
    have range := three_mul_limit_le
    generalize 10 ^ 309 = power at range ⊢
    refine Nat.le_of_mul_le_mul_right (c := 2 * one) ?_ (Nat.mul_pos Nat.two_pos one_pos)
    calc count * 10 ^ e * (2 * one)
      _ = 2 * (count * 10 ^ e * one) := Nat.mul_left_comm _ _ _
      _ ≤ 3 * (units * 10 ^ f) := high
      _ ≤ 3 * (limit * 10 ^ f) := by gcongr
      _ = 3 * limit * 10 ^ f := (Nat.mul_assoc _ _ _).symm
      _ ≤ 2 * (one * power) * 10 ^ f := Nat.mul_le_mul_right _ range
      _ = power * 10 ^ f * (2 * one) := by ring
  refine ⟨positive, ?_, ?_⟩
  · -- the number of digits is the power of ten next to the count
    have few : (Number.natDigits count).length - 1 + e ≤ 309 + f := by
      refine (pow_le_pow_iff_right₀ (by decide : 1 < 10)).1 ?_
      rw [pow_add, pow_add]
      refine Nat.le_trans ?_ less
      gcongr
      exact pow_length_natDigits_le positive
    omega
  · refine (pow_lt_pow_iff_right₀ (by decide : 1 < 10)).1 (lt_of_le_of_lt above ?_)
    rw [pow_add, pow_add]
    gcongr
    exact lt_pow_length_natDigits count

/-- **Decimals near a double are read as this double.** -/
theorem ofScientific_of_isNear (negative : Bool) {exponent : Int} {count : Nat}
    (exact_ : IsExact units) (some : 0 < units) (bounded : units < limit)
    (near : IsNear units (count * 10 ^ exponent.toNat * one) (10 ^ (-exponent).toNat)) :
    ofScientific negative count exponent = .finite negative units := by
  obtain ⟨positive, few, many⟩ := near.digits exact_ some bounded
  have tens : 0 < 10 ^ (-exponent).toNat := by positivity
  rw [ofScientific_eq negative (Nat.ne_of_gt positive) (by omega) (by omega), ofRatio,
    roundUnits_eq exact_ tens near, ofUnits, if_pos bounded]

end Near

/-! ### The shortest decimals -/

section Shortest

variable {units : Nat}

theorem inSteps_eq (units : Nat) (exponent : Int) :
    inSteps units exponent = (units * 10 ^ (-exponent).toNat, one * 10 ^ exponent.toNat) := by
  unfold inSteps
  split
  · have none : (-exponent).toNat = 0 := by omega
    rw [none, Nat.pow_zero, Nat.mul_one, Nat.pow_eq]
  · have none : exponent.toNat = 0 := by omega
    rw [none, Nat.pow_zero, Nat.mul_one, Nat.pow_eq]

/-- A number is at least the power of ten of its leading digit. -/
theorem pow_leadingPower_le (some : 0 < units) :
    one * 10 ^ (leadingPower units).toNat ≤ units * 10 ^ (-leadingPower units).toNat := by
  unfold leadingPower
  split
  · next whole =>
    have digits : 0 < (Number.natDigits (units / one)).length := Nat.length_toDigits_pos
    obtain ⟨places, same⟩ : ∃ places : Nat, (Number.natDigits (units / one)).length = places + 1 :=
      Nat.exists_eq_succ_of_ne_zero (Nat.ne_of_gt digits)
    have power := pow_length_natDigits_le (Nat.div_pos whole one_pos)
    rw [same] at power ⊢
    have sign : (-(((places + 1 : Nat) : Int) - 1)).toNat = 0 := by omega
    have value : (((places + 1 : Nat) : Int) - 1).toNat = places := by omega
    rw [sign, value, Nat.pow_zero, Nat.mul_one, Nat.mul_comm]
    exact (Nat.le_div_iff_mul_le one_pos).1 power
  · -- below one, the digits of the reciprocal tell how many zeros come first
    have power := lt_pow_length_natDigits ((one - 1) / units)
    rw [Nat.div_lt_iff_lt_mul some] at power
    generalize (Number.natDigits ((one - 1) / units)).length = places at power
    have value : (-(places : Int)).toNat = 0 := by omega
    rw [value, Int.neg_neg, Int.toNat_natCast, Nat.pow_zero, Nat.mul_one, Nat.mul_comm]
    omega

/-- **One of the two fractions around a double is near it**, if their distance is small against the
double. -/
theorem isNear_of_fine {g d : Nat} (grid : 0 < g) (positive : 0 < d)
    (fine : 10 ^ 16 * g ≤ units * d) :
    IsNear units (units * d / g * g) d ∨ IsNear units ((units * d / g + 1) * g) d := by
  obtain ⟨step, steps⟩ : ∃ step, step = 2 ^ excessBits units := ⟨_, rfl⟩
  obtain ⟨below, lower⟩ :
      ∃ below, below = if units = 2 ^ 52 * step ∧ 1 < step then step else 2 * step := ⟨_, rfl⟩
  have bits : units * d < 2 ^ 53 * (step * d) := by
    rw [← Nat.mul_assoc, steps, ← Nat.pow_add]
    exact Nat.mul_lt_mul_of_pos_right (lt_pow_excessBits units) positive
  -- the bounds of the interval that is rounded to the double, multiplied out
  have low : (4 * units - below) * d = 4 * (units * d) - below * d := by
    rw [Nat.sub_mul, Nat.mul_assoc]
  have high : (4 * units + 2 * step) * d = 4 * (units * d) + 2 * (step * d) := by
    rw [Nat.add_mul, Nat.mul_assoc, Nat.mul_assoc]
  -- the grid is finer than the distance of the midpoints
  have finer : 4 * g < below * d + 2 * (step * d) := by
    by_cases boundary : units = 2 ^ 52 * step ∧ 1 < step
    · rw [if_pos boundary] at lower
      have same : units * d = 2 ^ 52 * (step * d) := by rw [boundary.1, Nat.mul_assoc]
      rw [lower]
      omega
    · rw [if_neg boundary] at lower
      rw [lower, Nat.mul_assoc]
      omega
  have onGrid : units * d / g * g + units * d % g = units * d := Nat.div_add_mod' (units * d) g
  have inGrid : units * d % g < g := Nat.mod_lt _ grid
  -- the fraction below is near, or it is so far away that the one above is near
  by_cases near : 4 * (units * d % g) < below * d
  · refine Or.inl (isNear_of_lt steps lower ?_ ?_)
    · rw [low]
      omega
    · rw [high]
      omega
  · refine Or.inr (isNear_of_lt steps lower ?_ ?_)
    · rw [low, Nat.add_mul]
      omega
    · rw [high, Nat.add_mul]
      omega

/-- **One of the two decimals around a double reads back**, if they are close enough. -/
theorem readsBack_of_fine {exponent : Int}
    (fine : 10 ^ 16 * (one * 10 ^ exponent.toNat) ≤ units * 10 ^ (-exponent).toNat) :
    let down := units * 10 ^ (-exponent).toNat / (one * 10 ^ exponent.toNat)
    readsBack units exponent down = true ∨ readsBack units exponent (down + 1) = true := by
  intro down
  have counted (count : Nat) :
      count * 10 ^ exponent.toNat * one = count * (one * 10 ^ exponent.toNat) := by
    rw [Nat.mul_assoc, Nat.mul_comm one]
  rw [readsBack_iff, readsBack_iff, counted, counted]
  exact isNear_of_fine (Nat.mul_pos one_pos (by positivity)) (by positivity) fine

theorem readsBack_of_withDigits? {tie : Tie} {places : Nat} {d : Decimals}
    (found : withDigits? tie units places = some d) :
    readsBack units d.exponent d.digits = true := by
  unfold withDigits? at found
  dsimp only at found
  split_ifs at found with down up
  · cases found
    exact (Bool.and_eq_true_iff.1 down).1
  · cases found
    exact up

/-- **Seventeen digits are enough** for every double. -/
theorem exists_withDigits? (tie : Tie) (some : 0 < units) :
    ∃ d, withDigits? tie units 17 = .some d := by
  -- steps of seventeen digits are small against the double
  have fine : 10 ^ 16 * (one * 10 ^ (leadingPower units - (17 : Nat) + 1).toNat) ≤
      units * 10 ^ (-(leadingPower units - (17 : Nat) + 1)).toNat := by
    have leading := pow_leadingPower_le some
    generalize leadingPower units = power at leading ⊢
    refine Nat.le_of_mul_le_mul_right (c := 10 ^ (-power).toNat) ?_ (by positivity)
    -- the powers of ten on both sides add up to the same
    have same : 16 + (power - (17 : Nat) + 1).toNat + (-power).toNat =
        power.toNat + (-(power - (17 : Nat) + 1)).toNat := by omega
    calc 10 ^ 16 * (one * 10 ^ (power - (17 : Nat) + 1).toNat) * 10 ^ (-power).toNat
      _ = one * 10 ^ (16 + (power - (17 : Nat) + 1).toNat + (-power).toNat) := by
        rw [pow_add, pow_add]
        ring
      _ = one * 10 ^ power.toNat * 10 ^ (-(power - (17 : Nat) + 1)).toNat := by
        rw [same, pow_add, Nat.mul_assoc]
      _ ≤ units * 10 ^ (-power).toNat * 10 ^ (-(power - (17 : Nat) + 1)).toNat := by gcongr
      _ = units * 10 ^ (-(power - (17 : Nat) + 1)).toNat * 10 ^ (-power).toNat :=
        Nat.mul_right_comm _ _ _
  unfold withDigits?
  simp only [inSteps_eq]
  split_ifs with down up
  · exact ⟨_, rfl⟩
  · exact ⟨_, rfl⟩
  · -- one of the neighbours on these steps reads back, and is taken
    rcases readsBack_of_fine fine with fits | fits
    · rw [Bool.not_eq_true] at up
      simp only [fits, up, Bool.not_false, Bool.true_or, Bool.and_self, not_true] at down
    · exact absurd fits up

/-- Zeros at the end of decimals are taken off without a change of the value. -/
theorem ofScientific_stripped (negative : Bool) (fuel : Nat) (d : Decimals) :
    ofScientific negative (d.stripped fuel).digits (d.stripped fuel).exponent =
      ofScientific negative d.digits d.exponent := by
  induction fuel generalizing d with
  | zero => rfl
  | succ fuel ih =>
    rw [Decimals.stripped]
    split
    · next ends =>
      -- the last digit is a zero, so it can be moved into the exponent
      have whole : d.digits / 10 * 10 ^ 1 = d.digits := by omega
      have moved := ofScientific_mul_pow negative (d.digits / 10) 1 d.exponent
      rw [whole] at moved
      exact (ih _).trans moved.symm
    · rfl

/-- **The shortest decimals of a double are read as this double.** -/
theorem ofScientific_shortest (negative : Bool) (tie : Tie) (exact_ : IsExact units)
    (some : 0 < units) (bounded : units < limit) :
    ofScientific negative (shortest tie units).digits (shortest tie units).exponent =
      .finite negative units := by
  unfold shortest
  dsimp only
  rw [ofScientific_stripped]
  split
  · next d found =>
    -- digits are tried in their number, and those that are taken read back
    obtain ⟨places, -, found⟩ := List.exists_of_findSome?_eq_some found
    have near := readsBack_iff.1 (readsBack_of_withDigits? found)
    exact ofScientific_of_isNear negative exact_ some bounded near
  · next missing =>
    -- the seventeenth try would have found some
    obtain ⟨d, found⟩ := exists_withDigits? tie some
    have none := List.findSome?_eq_none_iff.1 missing 16 (List.mem_range.2 (by decide))
    rw [found] at none
    cases none

end Shortest

/-! ### Reading numerals -/

section Numerals

variable {negative : Bool} {digits whole places rest : List Char}

theorem ofDigits_append (start : Nat) (digits more : List Char) :
    Number.ofDigits start (digits ++ more) = Number.ofDigits (Number.ofDigits start digits) more :=
  List.foldl_append

theorem ofDigits_zeros (start k : Nat) :
    Number.ofDigits start (List.replicate k '0') = start * 10 ^ k := by
  rw [Nat.mul_comm]
  exact Nat.ofDigitChars_replicate_zero

theorem isDigit_zeros (k : Nat) : ∀ c ∈ List.replicate k '0', c.isDigit := by
  intro c mem
  rw [List.eq_of_mem_replicate mem]
  rfl

/-- Digits are taken up to the first character that is none. -/
theorem takeDigits_append (all : ∀ c ∈ digits, c.isDigit)
    (ends : ∀ c ∈ rest.head?, c.isDigit = false) :
    takeDigits (digits ++ rest) = (digits, rest) := by
  rw [takeDigits, List.takeWhile_append_of_pos all, List.dropWhile_append_of_pos all]
  cases rest with
  | nil => rw [List.takeWhile_nil, List.dropWhile_nil, List.append_nil]
  | cons c rest =>
    have none : ¬ c.isDigit = true := by simp [ends c rfl]
    rw [List.takeWhile_cons_of_neg none, List.dropWhile_cons_of_neg none, List.append_nil]

theorem takeDigits_digits (all : ∀ c ∈ digits, c.isDigit) : takeDigits digits = (digits, []) := by
  have taken : takeDigits (digits ++ []) = (digits, []) :=
    takeDigits_append all fun c mem => by cases mem
  rwa [List.append_nil] at taken

/-- Reading digits. -/
theorem readMagnitude?_digits (all : ∀ c ∈ digits, c.isDigit) (some : digits ≠ []) :
    readMagnitude? negative digits =
      .some (ofScientific negative (Number.ofDigits 0 digits) 0) := by
  have full : digits.isEmpty = false := List.isEmpty_eq_false_iff.2 some
  rw [readMagnitude?, takeDigits_digits all]
  simp only [full, List.append_nil]
  rfl

/-- Reading digits with a point among them. -/
theorem readMagnitude?_point (all : ∀ c ∈ whole, c.isDigit) (some : whole ≠ [])
    (more : ∀ c ∈ places, c.isDigit) :
    readMagnitude? negative (whole ++ '.' :: places) =
      .some (ofScientific negative (Number.ofDigits 0 (whole ++ places)) (-places.length)) := by
  have full : whole.isEmpty = false := List.isEmpty_eq_false_iff.2 some
  have taken : takeDigits (whole ++ '.' :: places) = (whole, '.' :: places) :=
    takeDigits_append all fun c mem => by cases mem; rfl
  rw [readMagnitude?, taken]
  simp only [takeDigits_digits more, full, readExponent?, Option.map_some, Int.zero_sub]
  rfl

/-- **The plain layout of decimals is read as their number.** -/
theorem readMagnitude?_positional (negative : Bool) (d : Decimals) :
    readMagnitude? negative (positional d.layout.1 d.layout.2) =
      .some (ofScientific negative d.digits d.exponent) := by
  obtain ⟨count, exponent⟩ := d
  have digit := Number.isDigit_natDigits count
  have value := Number.ofDigits_natDigits count
  have some : 0 < (Number.natDigits count).length := Nat.length_toDigits_pos
  dsimp only [Decimals.layout]
  generalize Number.natDigits count = digits at digit value some ⊢
  unfold positional
  split_ifs with front behind
  · -- all digits behind the point
    -- zeros fill the gap to the point, and add nothing to the number
    have all : ∀ c ∈ List.replicate (-(digits.length + exponent)).toNat '0' ++ digits,
        c.isDigit := List.forall_mem_append.2 ⟨isDigit_zeros _, digit⟩
    have same : Number.ofDigits 0 (['0'] ++
        (List.replicate (-(digits.length + exponent)).toNat '0' ++ digits)) = count := by
      have zero : Number.ofDigits 0 ['0'] = 0 := rfl
      rw [ofDigits_append, ofDigits_append, zero, ofDigits_zeros, Nat.zero_mul, value]
    have zero : ∀ c ∈ ['0'], c.isDigit := List.forall_mem_singleton.2 rfl
    refine (readMagnitude?_point zero (List.cons_ne_nil _ _) all).trans ?_
    rw [same, List.length_append, List.length_replicate]
    congr
    omega
  · -- all digits in front of the point, which is not written
    obtain ⟨zeros, same⟩ : ∃ zeros : Nat, exponent = zeros := Int.eq_ofNat_of_zero_le (by omega)
    have count_zeros : ((digits.length : Int) + exponent).toNat - digits.length = zeros := by omega
    have all : ∀ c ∈ digits ++ List.replicate zeros '0', c.isDigit :=
      List.forall_mem_append.2 ⟨digit, isDigit_zeros zeros⟩
    rw [count_zeros, readMagnitude?_digits all (by simp [List.ne_nil_of_length_pos some]),
      ofDigits_append, value, ofDigits_zeros, ofScientific_mul_pow, Int.zero_add, same]
  · -- the point among the digits
    obtain ⟨place, same⟩ : ∃ place : Nat, (digits.length : Int) + exponent = place :=
      Int.eq_ofNat_of_zero_le (by omega)
    rw [same, Int.toNat_natCast]
    have some : digits.take place ≠ [] := by
      refine List.ne_nil_of_length_pos ?_
      rw [List.length_take]
      omega
    rw [readMagnitude?_point (fun c mem => digit c (List.mem_of_mem_take mem)) some
      (fun c mem => digit c (List.mem_of_mem_drop mem)), List.take_append_drop, value,
      List.length_drop]
    congr
    omega

end Numerals

/-! ### Reading the text -/

section Text

variable {negative : Bool} {c : Char} {s rest : List Char}

theorem toLower_digit (digit : c.isDigit) : c.toLower = c := by
  have high : c.toNat ≤ 57 := (Char.isDigit_iff_toNat.1 digit).2
  rw [Char.toLower, dif_neg]
  rintro ⟨low, -⟩
  have low : 65 ≤ c.toNat := UInt32.le_iff_toNat_le.1 low
  omega

/-- A text that begins with a digit is none of the words. -/
theorem readUnsigned?_digit (digit : c.isDigit) :
    readUnsigned? negative (c :: rest) = readMagnitude? negative (c :: rest) := by
  have other {first : Char} {word : List Char} (letter : first.isDigit = false) :
      String.ofList ((c :: rest).map Char.toLower) ≠ String.ofList (first :: word) := by
    intro same
    have head := (List.cons.inj (String.ofList_injective same)).1
    rw [toLower_digit digit] at head
    rw [head, letter] at digit
    cases digit
  rw [readUnsigned?]
  have inf : String.ofList ((c :: rest).map Char.toLower) ≠ "inf" := other rfl
  have infinity : String.ofList ((c :: rest).map Char.toLower) ≠ "infinity" := other rfl
  have nan : String.ofList ((c :: rest).map Char.toLower) ≠ "nan" := other rfl
  simp only [inf, infinity, nan, decide_false, Bool.or_self, Bool.false_eq_true, ↓reduceIte]

/-- A digit is no sign. -/
theorem ne_sign_of_isDigit (digit : c.isDigit) : c ≠ '-' ∧ c ≠ '+' := by
  constructor
  · rintro rfl
    cases digit
  · rintro rfl
    cases digit

/-- Without a sign in front a number is positive. -/
theorem read?_unsigned (minus : c ≠ '-') (plus : c ≠ '+') :
    read? (c :: rest) = readUnsigned? false (c :: rest) := by
  rw [read?]
  · rintro _ same
    exact minus (List.cons.inj same).1
  · rintro _ same
    exact plus (List.cons.inj same).1

/-- Digits behind an optional minus sign are a number. -/
theorem read?_signed (digit : c.isDigit) :
    read? (Number.signed negative (c :: rest)) = readMagnitude? negative (c :: rest) := by
  rw [← readUnsigned?_digit digit]
  cases negative with
  | true => rfl
  | false =>
    obtain ⟨minus, plus⟩ := ne_sign_of_isDigit digit
    exact read?_unsigned minus plus

/-- The plain layout of decimals begins with a digit. -/
theorem exists_positional (d : Decimals) :
    ∃ c rest, positional d.layout.1 d.layout.2 = c :: rest ∧ c.isDigit := by
  obtain ⟨c, rest, same⟩ :=
    List.exists_cons_of_ne_nil (Nat.toDigits_ne_nil (n := d.digits) (b := 10))
  have same : Number.natDigits d.digits = c :: rest := same
  have digit : c.isDigit := Number.isDigit_natDigits d.digits c (same ▸ List.mem_cons_self)
  dsimp only [Decimals.layout]
  rw [same, positional]
  -- a zero in front of the point, the digits with zeros behind them, or a point between the digits
  split_ifs with front behind
  · exact ⟨'0', _, rfl, rfl⟩
  · exact ⟨c, _, rfl, digit⟩
  · obtain ⟨place, more⟩ :
        ∃ place, (((c :: rest).length : Int) + d.exponent).toNat = place + 1 :=
      Nat.exists_eq_succ_of_ne_zero (by omega)
    rw [more]
    exact ⟨c, _, rfl, digit⟩

/-- The characters of a plain layout. -/
theorem mem_positional {digits : List Char} {point : Int} (mem : c ∈ positional digits point) :
    c ∈ digits ∨ c = '0' ∨ c = '.' := by
  unfold positional at mem
  -- the three layouts, as the point stands in front of the digits, behind or among them
  split_ifs at mem
  · rcases List.mem_cons.1 mem with rfl | mem
    · exact Or.inr (Or.inl rfl)
    · rcases List.mem_cons.1 mem with rfl | mem
      · exact Or.inr (Or.inr rfl)
      · rcases List.mem_append.1 mem with zero | mem
        · exact Or.inr (Or.inl (List.eq_of_mem_replicate zero))
        · exact Or.inl mem
  · rcases List.mem_append.1 mem with mem | zero
    · exact Or.inl mem
    · exact Or.inr (Or.inl (List.eq_of_mem_replicate zero))
  · rcases List.mem_append.1 mem with mem | mem
    · exact Or.inl (List.mem_of_mem_take mem)
    · rcases List.mem_cons.1 mem with rfl | mem
      · exact Or.inr (Or.inr rfl)
      · exact Or.inl (List.mem_of_mem_drop mem)

/-- The plain text of a finite number has digits, a point and a minus sign. -/
theorem mem_plain {units : Nat} (mem : c ∈ (plain (.finite negative units)).toList) :
    c.isDigit ∨ c = '.' ∨ c = '-' := by
  -- a sign is the only character besides those of the layout
  have unsigned {digits : List Char} (all : ∀ c ∈ digits, c.isDigit ∨ c = '.')
      (mem : c ∈ Number.signed negative digits) : c.isDigit ∨ c = '.' ∨ c = '-' := by
    cases negative with
    | false => exact (all c mem).imp_right Or.inl
    | true =>
      rcases List.mem_cons.1 mem with minus | mem
      · exact Or.inr (Or.inr minus)
      · exact (all c mem).imp_right Or.inl
  rw [plain] at mem
  split_ifs at mem
  · rw [String.toList_ofList] at mem
    refine unsigned (fun c mem => Or.inl ?_) mem
    rw [List.mem_singleton.1 mem]
    rfl
  · rw [String.toList_ofList] at mem
    refine unsigned (fun c mem => ?_) mem
    rcases mem_positional mem with digit | rfl | point
    · exact Or.inl (Number.isDigit_natDigits _ c digit)
    · exact Or.inl rfl
    · exact Or.inr point

/-- **The plain text of a double is read as the double.** -/
theorem read?_plain {x : Double} (double : IsDouble x) : read? x.plain.toList = some x := by
  cases double with
  | nan => rfl
  | infinite negative => cases negative <;> rfl
  | @finite negative units bounded exact_ =>
    rw [plain]
    split_ifs with zero
    · -- zero has no digits to look for
      subst zero
      rw [String.toList_ofList, read?_signed rfl, readMagnitude?_digits (by simp) (by simp)]
      rfl
    · obtain ⟨c, rest, text, digit⟩ := exists_positional (shortest .greater units)
      have read := readMagnitude?_positional negative (shortest .greater units)
      rw [ofScientific_shortest negative .greater exact_ (Nat.pos_of_ne_zero zero) bounded] at read
      dsimp only
      rw [String.toList_ofList, text, read?_signed digit, ← text, read]

end Text

end EntitySearch.Double
