import EntitySearch.Proofs.Documents.Order
import EntitySearch.Proofs.Text.Bytes

/-!
# The order of stored values by what they are worth

A stored value is null, a number or a text. Numbers are worth an exact fraction (`Json.number?`):
booleans zero and one, an integer of 64 bits itself, a finite double what its units make, and an
integer beyond 64 bits as much as the double for it. Arrays and objects are texts, namely their own
JSON text (`Json.written?`).

The place of a number is its fraction in units (`Json.exists_place_number`), so two numbers sort as
their fractions do, however they are represented. A text has the place of its characters, and those
compare as its bytes do. All other laws of the order hold because places compare in a linear order
(`Json.sortOrder_laws`).

In machine numbers an integer cannot be taken in units. It is compared with the range of 64 bits
first, then with the whole part of the double, and at last zero with the rest of it
(`Scalar.orderByParts`). This is the same order (`Scalar.orderMixed_eq_orderByParts`).
-/

namespace EntitySearch

/-! ### Integers and doubles by parts -/

namespace Scalar

/-- **The order of an integer and a double by parts**: a double beyond 64 bits is above or below
every integer, and otherwise the whole part of the double decides, and after it the rest. -/
def orderByParts (n : Int) : Double → Ordering
  | .nan => .eq
  | .infinite negative => if negative then .gt else .lt
  | .finite negative units =>
    let value := Double.signedUnits negative units
    if value < Number.minInt64 * Double.one then .gt
    else if (Number.maxInt64 + 1) * Double.one ≤ value then .lt
    else
      let whole := value.tdiv Double.one
      (compare n whole).then (compare 0 (value - whole * Double.one))

/-- An integer compares with the whole part of a number, and after it zero with the rest. -/
theorem compare_tdiv (n value : Int) {k : Int} (positive : 0 < k) :
    compare (n * k) value =
      (compare n (value.tdiv k)).then (compare 0 (value - value.tdiv k * k)) := by
  -- the rest is less than one, so it cannot take the number past another integer
  have rest : value - value.tdiv k * k = value.tmod k := by
    have parts : value.tdiv k * k + value.tmod k = value := Int.tdiv_mul_add_tmod value k
    omega
  have more : -k < value.tmod k := Int.lt_tmod_of_pos value positive
  have less : value.tmod k < k := Int.tmod_lt_of_pos value positive
  rw [← rest] at more less
  generalize value.tdiv k = whole at more less ⊢
  -- another whole number is a whole step away, the same one leaves the rest to decide
  rcases Int.lt_trichotomy n whole with smaller | rfl | larger
  · have step : (n + 1) * k ≤ whole * k := Int.mul_le_mul_of_nonneg_right smaller positive.le
    rw [Int.add_mul, Int.one_mul] at step
    rw [compare_lt_iff_lt.2 smaller, compare_lt_iff_lt.2 (by omega)]
    rfl
  · have shifted := compare_of_strictMono
      (fun _ _ less => Int.add_lt_add_left less (n * k)) 0 (value - n * k)
    rw [Int.add_zero, add_sub_cancel] at shifted
    rw [compare_eq_iff_eq.2 (rfl : n = n), Ordering.eq_then, shifted]
  · have step : (whole + 1) * k ≤ n * k := Int.mul_le_mul_of_nonneg_right larger positive.le
    rw [Int.add_mul, Int.one_mul] at step
    rw [compare_gt_iff_gt.2 larger, compare_gt_iff_gt.2 (by omega)]
    rfl

/-- **Comparing by parts is exact.** -/
theorem orderMixed_eq_orderByParts {n : Int} (fits : Number.isInt64 n) (x : Double) :
    orderMixed n x = orderByParts n x := by
  cases x with
  | nan => rfl
  | infinite negative => cases negative <;> rfl
  | finite negative units =>
    obtain ⟨above, below⟩ := Number.isInt64_iff.1 fits
    have one : (0 : Int) < Double.one := Int.natCast_pos.2 Double.one_pos
    -- an integer of 64 bits is within these bounds, so a number outside of them is told apart at
    -- once
    have low : Number.minInt64 * Double.one ≤ n * (Double.one : Int) :=
      Int.mul_le_mul_of_nonneg_right above one.le
    have high : n * (Double.one : Int) < (Number.maxInt64 + 1) * Double.one :=
      Int.mul_lt_mul_of_pos_right (Int.lt_add_one_of_le below) one
    rw [orderMixed, Double.orderInt, Option.getD_some, orderByParts]
    dsimp only
    split
    · next under => exact compare_gt_iff_gt.2 (under.trans_le low)
    · split
      · next beyond => exact compare_lt_iff_lt.2 (high.trans_le beyond)
      · exact compare_tdiv _ _ one

end Scalar

/-! ### What values are worth -/

/-- **The exact value of a finite double.** -/
def Double.rational : Double → ℚ
  | finite negative units => signedUnits negative units / one
  | _ => 0

namespace Json

/-- Whether a number is one that a JSON text can have: an integer of 64 bits, with a sign or
without, or a finite double. -/
def isNumeral : Json → Bool
  | int n => Number.minInt64 ≤ n && n ≤ Number.maxNat64
  | real x => x.isFinite
  | _ => true

/-- **The exact value of a number.** -/
def number? : Json → Option ℚ
  | bool value => some (if value then 1 else 0)
  | int n => some (if Number.isInt64 n then n else (Double.ofInt n).rational)
  | real x => some x.rational
  | _ => none

/-- **The text that a value sorts by**, if it is no number. -/
def written? : Json → Option String
  | text value => some value
  | array items => some (array items).compact
  | object members => some (object members).compact
  | _ => none

/-- The more units, the greater the number. -/
theorem rational_strictMono : StrictMono fun units : Int => (units : ℚ) / Double.one :=
  fun _ _ less => div_lt_div_of_pos_right (Int.cast_lt.2 less) (Nat.cast_pos.2 Double.one_pos)

/-- Every value but null is worth something. -/
theorem number?_or_written? (value : Json) :
    value = null ∨ value.number?.isSome ∨ value.written?.isSome := by
  cases value with
  | null => exact Or.inl rfl
  | bool | int | real => exact Or.inr (Or.inl rfl)
  | text | array | object => exact Or.inr (Or.inr rfl)

theorem isOrdered_of_isNumeral {value : Json} (numeral : value.isNumeral) (scalar : Scalar)
    (h : value.scalar? = some scalar) : scalar.IsOrdered := by
  cases value with
  | null => cases h
  | real x =>
    obtain rfl := Option.some.inj h
    rintro rfl
    cases numeral
  | int n =>
    -- a great integer is sorted as a double, which is no NaN
    obtain rfl := Option.some.inj h
    split
    · trivial
    · exact Double.ofInt_ne_nan n
  | bool value | text value | array items | object members =>
    obtain rfl := Option.some.inj h
    trivial

/-- **A number has its exact value as its place.** -/
theorem exists_place_number {value : Json} {x : ℚ} (numeral : value.isNumeral)
    (worth : value.number? = some x) :
    ∃ units : Int, value.place = ((Sum.inlₗ (.ofUnits units) : NumberLine ⊕ₗ String) :
      WithBot (NumberLine ⊕ₗ String)) ∧ x = units / Double.one := by
  have one : (Double.one : ℚ) ≠ 0 := Nat.cast_ne_zero.2 (Nat.ne_of_gt Double.one_pos)
  -- a whole number is counted in units of the smallest double, like all others
  have whole (n : Int) : (n : ℚ) = (n * Double.one : Int) / Double.one := by
    rw [Int.cast_mul, Int.cast_natCast, mul_div_cancel_right₀ _ one]
  cases value with
  | bool value =>
    obtain rfl := Option.some.inj worth
    refine ⟨(if value then 1 else 0) * Double.one, rfl, ?_⟩
    rw [← whole]
    cases value <;> rfl
  | int n =>
    obtain rfl := Option.some.inj worth
    by_cases fits : Number.isInt64 n
    · refine ⟨n * Double.one, ?_, ?_⟩
      · rw [place, scalar?, if_pos fits]
        rfl
      · rw [if_pos fits, whole]
    · -- beyond 64 bits an integer is kept as the double for it
      have small : n.natAbs ≤ 2 ^ 64 := by
        rw [isNumeral, Bool.and_eq_true, decide_eq_true_iff, decide_eq_true_iff, Number.minInt64,
          Number.maxNat64] at numeral
        omega
      rw [if_neg fits, place, scalar?, if_neg fits, Double.ofInt_eq small]
      exact ⟨_, rfl, rfl⟩
  | real x =>
    obtain rfl := Option.some.inj worth
    cases x with
    | finite negative units => exact ⟨_, rfl, rfl⟩
    -- these are no numerals
    | nan | infinite => cases numeral
  | null | text | array | object => cases worth

/-- A text has its characters as its place. -/
theorem place_written {value : Json} {s : String} (written : value.written? = some s) :
    value.place = ((Sum.inrₗ s : NumberLine ⊕ₗ String) : WithBot (NumberLine ⊕ₗ String)) := by
  cases value with
  | text | array | object =>
    obtain rfl := Option.some.inj written
    rfl
  | null | bool | int | real => cases written

/-! ### The laws -/

/-- **The laws of the order of stored values**, for three values. -/
structure SortLaws (a b c : Json) : Prop where
  /-- The order can be turned around. -/
  reverse : b.sortOrder a = (a.sortOrder b).swap
  /-- What is not greater than what is not greater is not greater. -/
  trans : a.sortOrder b ≠ .gt → b.sortOrder c ≠ .gt → a.sortOrder c ≠ .gt
  /-- Every value is equal to itself. -/
  eq_refl : a.sortOrder a = .eq
  /-- Equality can be turned around. -/
  eq_symm : a.sortOrder b = .eq → b.sortOrder a = .eq
  /-- What is equal to an equal value is equal. -/
  eq_trans : a.sortOrder b = .eq → b.sortOrder c = .eq → a.sortOrder c = .eq
  /-- Equal values have the same order with every other one. -/
  eq_compat : a.sortOrder b = .eq → a.sortOrder c = b.sortOrder c ∧ c.sortOrder a = c.sortOrder b
  /-- Null is below every other value. -/
  null_lt : a ≠ null → null.sortOrder a = .lt
  /-- Numbers are below texts, arrays and objects. -/
  number_lt : a.number?.isSome → b.written?.isSome → a.sortOrder b = .lt
  /-- Numbers sort as their exact values. -/
  numbers : ∀ x y, a.number? = some x → b.number? = some y → a.sortOrder b = compare x y
  /-- The order of an integer and a double can be told by parts. -/
  parts : ∀ n x, a = int n → Number.isInt64 n → b = real x →
    a.sortOrder b = Scalar.orderByParts n x
  /-- Texts sort as their bytes. -/
  texts : ∀ s t, a.written? = some s → b.written? = some t →
    a.sortOrder b = compare (Text.bytes s) (Text.bytes t)
  /-- A value is null, a number or a text. -/
  kinds : a = null ∨ a.number?.isSome ∨ a.written?.isSome

/-- **Stored values sort by a total preorder** that follows the exact values of numbers and the
bytes of texts. -/
theorem sortOrder_laws (a b c : Json) (numeral : a.isNumeral) (numeral' : b.isNumeral)
    (numeral'' : c.isNumeral) : SortLaws a b c := by
  have sorted {a b : Json} (numeral : a.isNumeral) (numeral' : b.isNumeral) :
      a.sortOrder b = compare a.place b.place :=
    sortOrder_of_isOrdered (isOrdered_of_isNumeral numeral) (isOrdered_of_isNumeral numeral')
  -- all values have places in one linear order, which has the first laws already
  have ab := sorted numeral numeral'
  have bc := sorted numeral' numeral''
  have ac := sorted numeral numeral''
  have same (h : a.sortOrder b = .eq) : a.place = b.place := compare_eq_iff_eq.1 (ab ▸ h)
  refine ⟨?_, ?_, ?_, ?_, ?_, ?_, ?_, ?_, ?_, ?_, ?_, number?_or_written? a⟩
  · rw [ab, sorted numeral' numeral]
    exact Std.OrientedOrd.eq_swap
  · rw [ab, bc, ac, compare_le_iff_le, compare_le_iff_le, compare_le_iff_le]
    exact le_trans
  · exact (sorted numeral numeral).trans (compare_eq_iff_eq.2 rfl)
  · intro equal
    rw [sorted numeral' numeral, same equal]
    exact compare_eq_iff_eq.2 rfl
  · intro equal equal'
    rw [ac, same equal, ← bc, equal']
  · intro equal
    rw [ac, bc, sorted numeral'' numeral, sorted numeral'' numeral', same equal]
    exact ⟨rfl, rfl⟩
  · -- null is in front of everything
    intro known
    cases a with
    | null => exact absurd rfl known
    | _ => rfl
  · intro number written
    obtain ⟨x, worth⟩ := Option.isSome_iff_exists.1 number
    obtain ⟨s, spelled⟩ := Option.isSome_iff_exists.1 written
    -- the places of numbers are in front of those of texts
    obtain ⟨units, placed, -⟩ := exists_place_number numeral worth
    rw [ab, placed, place_written spelled, compare_of_strictMono WithBot.coe_strictMono]
    exact compare_lt_iff_lt.2 (Sum.Lex.inl_lt_inr _ _)
  · intro x y worth worth'
    obtain ⟨units, placed, rfl⟩ := exists_place_number numeral worth
    -- units are counted alike for both, so the exact values compare as the places do
    obtain ⟨units', placed', rfl⟩ := exists_place_number numeral' worth'
    rw [ab, placed, placed', compare_of_strictMono WithBot.coe_strictMono, Scalar.compare_numbers,
      compare_of_strictMono NumberLine.ofUnits_strictMono]
    exact (compare_of_strictMono rational_strictMono units units').symm
  · rintro n x rfl fits rfl
    rw [sortOrder, scalar?, if_pos fits]
    exact Scalar.orderMixed_eq_orderByParts fits x
  · intro s t spelled spelled'
    rw [ab, place_written spelled, place_written spelled',
      compare_of_strictMono WithBot.coe_strictMono, Scalar.compare_texts, Text.compare_bytes]

/-- The double in front of the first integer that is no double. -/
def evenNeighbour : Double := .finite false (9007199254740992 * Double.one)

/-- The integer is above that double, whatever side it stands on, and below an empty array. -/
theorem sortOrder_laws_neighbours :
    (int 9007199254740993).sortOrder (real evenNeighbour) = .gt ∧
      (real evenNeighbour).sortOrder (int 9007199254740993) = .lt ∧
      (int 9007199254740993).sortOrder (array []) = .lt := by
  have laws := sortOrder_laws (int 9007199254740993) (real evenNeighbour) null rfl rfl rfl
  have above : (int 9007199254740993).sortOrder (real evenNeighbour) = .gt :=
    (laws.parts _ _ rfl rfl rfl).trans (by decide +kernel)
  refine ⟨above, laws.reverse.trans (congrArg Ordering.swap above), ?_⟩
  exact (sortOrder_laws (int 9007199254740993) (array []) null rfl rfl rfl).number_lt rfl rfl

end Json

end EntitySearch
