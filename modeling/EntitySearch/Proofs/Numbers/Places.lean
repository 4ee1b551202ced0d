import EntitySearch.Proofs.Numbers.PlainText
import EntitySearch.Proofs.Text.Bytes

/-!
# The order of digits as texts

Digits compare by their code points, and so as the numbers that they stand for if there are equally
many of them (`Number.compare_ofDigits`). Of two runs of digits of any length the leading digits
that both have decide, and if those are the same, the shorter run is first
(`Number.compare_digits`). This is the order of numbers only where the numbers have equally many
digits. A format that pads its numbers to a width that all of them fit in sees to that
(`Number.compare_padded`).
-/

namespace EntitySearch.Number

open Text (points points_cons points_append length_points)

/-! ### Digits as code points -/

section Digits

variable {xs ys : List Char} (digits : ∀ c ∈ xs, c.isDigit) (digits' : ∀ c ∈ ys, c.isDigit)

theorem toNat_of_isDigit {c : Char} (digit : c.isDigit) :
    c.toNat = digitValue c + 48 ∧ digitValue c < 10 := by
  have range : 48 ≤ c.toNat ∧ c.toNat ≤ 57 := Char.isDigit_iff_toNat.1 digit
  rw [digitValue]
  omega

include digits digits'

/-- **Equally many digits** compare as the numbers that they go on to from what is in front. -/
theorem compare_ofDigits (length : xs.length = ys.length) (m n : Nat) :
    compare (ofDigits m xs) (ofDigits n ys) =
      (compare m n).then (compare (points xs) (points ys)) := by
  induction xs generalizing ys m n with
  | nil =>
    obtain rfl := List.eq_nil_of_length_eq_zero length.symm
    exact Ordering.then_eq.symm
  | cons c xs ih =>
    cases ys with
    | nil => cases length
    | cons d ys =>
      obtain ⟨first, rest⟩ := List.forall_mem_cons.1 digits
      obtain ⟨first', rest'⟩ := List.forall_mem_cons.1 digits'
      obtain ⟨point, small⟩ := toNat_of_isDigit first
      obtain ⟨point', small'⟩ := toNat_of_isDigit first'
      -- the first digit is the remainder by ten of what the numbers go on from
      have next : compare (10 * m + digitValue c) (10 * n + digitValue d) =
          (compare m n).then (compare (digitValue c) (digitValue d)) := by
        rw [compare_div_mod _ _ 10]
        congr 2 <;> omega
      calc
        compare (ofDigits m (c :: xs)) (ofDigits n (d :: ys)) =
            (compare (10 * m + digitValue c) (10 * n + digitValue d)).then
              (compare (points xs) (points ys)) := ih rest rest' (Nat.succ.inj length) _ _
        _ = (compare m n).then (compare (points (c :: xs)) (points (d :: ys))) := by
          rw [next, points_cons, points_cons, List.compare_cons_cons, point, point', compare_add,
            Ordering.then_assoc]

end Digits

/-- Without as many digits as were added, what was in front is left. -/
theorem ofDigits_div {xs : List Char} (digits : ∀ c ∈ xs, c.isDigit) (m : Nat) :
    ofDigits m xs / 10 ^ xs.length = m := by
  induction xs generalizing m with
  | nil => exact Nat.div_one m
  | cons c xs ih =>
    obtain ⟨first, rest⟩ := List.forall_mem_cons.1 digits
    obtain ⟨-, small⟩ := toNat_of_isDigit first
    rw [List.length_cons, Nat.pow_succ, ← Nat.div_div_eq_div_mul]
    show ofDigits (10 * m + digitValue c) xs / 10 ^ xs.length / 10 = m
    rw [ih rest]
    omega

/-! ### Runs of digits of any length -/

/-- **The order of runs of digits**, of which one stands for `m` with `j` digits and the other for
`n` with `k` digits: by the leading digits that both have, and then by length. -/
def spelledOrder (m j n k : Nat) : Ordering :=
  (compare (m / 10 ^ (j - k)) (n / 10 ^ (k - j))).then (compare j k)

/-- With equally many digits this is the order of the numbers. -/
theorem spelledOrder_self (m n k : Nat) : spelledOrder m k n k = compare m n := by
  rw [spelledOrder, Nat.sub_self, Nat.pow_zero, Nat.div_one, Nat.div_one, Nat.compare_eq_eq.2 rfl,
    Ordering.then_eq]

theorem spelledOrder_swap (m j n k : Nat) :
    (spelledOrder m j n k).swap = spelledOrder n k m j := by
  rw [spelledOrder, spelledOrder, Ordering.swap_then, ← Std.OrientedOrd.eq_swap,
    ← Std.OrientedOrd.eq_swap]

section Runs

variable {xs ys : List Char} (digits : ∀ c ∈ xs, c.isDigit) (digits' : ∀ c ∈ ys, c.isDigit)

include digits digits'

theorem compare_digits_of_le (shorter : xs.length ≤ ys.length) :
    compare (points xs) (points ys) =
      spelledOrder (ofDigits 0 xs) xs.length (ofDigits 0 ys) ys.length := by
  -- the shorter run meets as many digits of the longer one, and what is left only adds length
  obtain ⟨front, rest, rfl, same⟩ :
      ∃ front rest, ys = front ++ rest ∧ xs.length = front.length :=
    ⟨ys.take xs.length, ys.drop xs.length, (List.take_append_drop _ _).symm, by
      rw [List.length_take, Nat.min_eq_left shorter]⟩
  obtain ⟨inFront, inRest⟩ := List.forall_mem_append.1 digits'
  have leading : ofDigits 0 (front ++ rest) / 10 ^ rest.length = ofDigits 0 front := by
    rw [Double.ofDigits_append, ofDigits_div inRest]
  -- the shorter run is in front, unless both end together
  have ending : compare [] (points rest) = compare front.length (front.length + rest.length) := by
    cases rest with
    | nil => exact (Nat.compare_eq_eq.2 rfl).symm
    | cons c rest => exact (Nat.compare_eq_lt.2 (Nat.lt_add_of_pos_right (Nat.succ_pos _))).symm
  have equal : compare (points xs) (points front) = compare (ofDigits 0 xs) (ofDigits 0 front) := by
    rw [compare_ofDigits digits inFront same, Nat.compare_eq_eq.2 rfl, Ordering.eq_then]
  calc
    compare (points xs) (points (front ++ rest)) =
        compare (points xs ++ []) (points front ++ points rest) := by
      rw [List.append_nil, points_append]
    _ = (compare (ofDigits 0 xs) (ofDigits 0 front)).then
          (compare front.length (front.length + rest.length)) := by
      rw [compare_append (by rw [length_points, length_points, same]), equal, ending]
    _ = spelledOrder (ofDigits 0 xs) xs.length (ofDigits 0 (front ++ rest))
          (front ++ rest).length := by
      rw [spelledOrder, List.length_append, same, Nat.add_sub_cancel_left, leading,
        Nat.sub_add_eq, Nat.sub_self, Nat.zero_sub, Nat.pow_zero, Nat.div_one]

/-- **Runs of digits compare** as told. -/
theorem compare_digits :
    compare (points xs) (points ys) =
      spelledOrder (ofDigits 0 xs) xs.length (ofDigits 0 ys) ys.length := by
  rcases Nat.le_total xs.length ys.length with shorter | longer
  · exact compare_digits_of_le digits digits' shorter
  · rw [Std.OrientedOrd.eq_swap, compare_digits_of_le digits' digits longer, spelledOrder_swap]

/-- A mark below all digits ends a run, and what is behind it decides if the runs are the same. -/
theorem compare_digits_mark {mark : Char} (below : mark.toNat < 48) (s t : List Char) :
    compare (points (xs ++ mark :: s)) (points (ys ++ mark :: t)) =
      (spelledOrder (ofDigits 0 xs) xs.length (ofDigits 0 ys) ys.length).then
        (compare (points s) (points t)) := by
  have above {zs : List Char} (digits : ∀ c ∈ zs, c.isDigit) : ∀ p ∈ points zs, mark.toNat < p := by
    intro p mem
    obtain ⟨c, inside, rfl⟩ := List.mem_map.1 mem
    have := toNat_of_isDigit (digits c inside)
    omega
  rw [points_append, points_append, points_cons, points_cons,
    compare_append_cons (above digits) (above digits'), compare_digits digits digits']

end Runs

/-! ### Padded digits -/

theorem isDigit_padded (width n : Nat) : ∀ c ∈ padded width n, c.isDigit :=
  List.forall_mem_append.2 ⟨Double.isDigit_zeros _, isDigit_natDigits n⟩

theorem ofDigits_padded (width n : Nat) : ofDigits 0 (padded width n) = n := by
  rw [padded, Double.ofDigits_append, Double.ofDigits_zeros, Nat.zero_mul, ofDigits_natDigits]

theorem length_padded (width n : Nat) :
    (padded width n).length = max width (natDigits n).length := by
  rw [padded, List.length_append, List.length_replicate]
  omega

/-- A number that fits has as many digits as the width asks for. -/
theorem length_padded_of_lt {width n : Nat} (some : 0 < width) (fits : n < 10 ^ width) :
    (padded width n).length = width := by
  have few : (natDigits n).length ≤ width := (Nat.length_toDigits_le_iff (by decide) some).2 fits
  rw [length_padded, Nat.max_eq_left few]

/-- **Numbers that fit into the width** compare as their digits do, and what is behind them decides
if they are the same. -/
theorem compare_padded {width m n : Nat} (some : 0 < width) (fits : m < 10 ^ width)
    (fits' : n < 10 ^ width) (s t : List Char) :
    compare (points (padded width m ++ s)) (points (padded width n ++ t)) =
      (compare m n).then (compare (points s) (points t)) := by
  have length := length_padded_of_lt some fits
  have length' := length_padded_of_lt some fits'
  rw [points_append, points_append,
    compare_append (by rw [length_points, length_points, length, length']),
    compare_digits (isDigit_padded _ _) (isDigit_padded _ _), ofDigits_padded, ofDigits_padded,
    length, length', spelledOrder_self]

end EntitySearch.Number
