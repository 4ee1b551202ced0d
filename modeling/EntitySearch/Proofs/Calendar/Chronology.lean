import EntitySearch.Attribute.Coerce
import EntitySearch.Proofs.Numbers.Places

/-!
# Dates as texts

Dates and times are stored as texts and compared as texts. Month, day and the parts of a time have a
fixed number of digits, and a fraction of a second is longer only where more places are needed, so
all of these have the order of their texts. A year has not. It has a sign outside of four digits,
and then as many digits as it needs: texts with a plus sign come first, those with a minus sign
next, and those with digits only last (`Calendar.signRank`), and with one sign the leading digits
decide (`Calendar.yearOrder`).

So the text of a date compares by its year in that order, and within a year chronologically
(`Calendar.Chronological`). The two orders agree on dates exactly when they agree on the years. They
do so on years of four digits, and on negative years together with those, but not on two negative
years, nor on a year of more digits with one of four. Texts are the same only for the same date.
-/

namespace EntitySearch

open Text (points points_cons points_append length_points)

/-! ### Chronological order -/

/-- **The chronological order of dates.** -/
def Date.order (a b : Date) : Ordering :=
  (compare a.year b.year).then ((compare a.month b.month).then (compare a.day b.day))

/-- The order of the times of a day. A leap second is behind the second in front of it. -/
def TimeOfDay.order (a b : TimeOfDay) : Ordering :=
  (compare a.hour b.hour).then ((compare a.minute b.minute).then
    ((compare a.second b.second).then (compare a.nano b.nano)))

/-- **The chronological order of dates with a time.** -/
def DateTime.order (a b : DateTime) : Ordering := (a.date.order b.date).then (a.time.order b.time)

theorem Date.order_eq_iff {a b : Date} : a.order b = .eq ↔ a = b := by
  constructor
  · intro equal
    rw [order, Ordering.then_eq_eq, Ordering.then_eq_eq, compare_eq_iff_eq, compare_eq_iff_eq,
      compare_eq_iff_eq] at equal
    cases a
    cases b
    obtain ⟨rfl, rfl, rfl⟩ := equal
    rfl
  · rintro rfl
    simp only [order, Std.ReflOrd.compare_self, Ordering.then_eq]

theorem TimeOfDay.order_eq_iff {a b : TimeOfDay} : a.order b = .eq ↔ a = b := by
  constructor
  · intro equal
    rw [order, Ordering.then_eq_eq, Ordering.then_eq_eq, Ordering.then_eq_eq, compare_eq_iff_eq,
      compare_eq_iff_eq, compare_eq_iff_eq, compare_eq_iff_eq] at equal
    cases a
    cases b
    obtain ⟨rfl, rfl, rfl, rfl⟩ := equal
    rfl
  · rintro rfl
    simp only [order, Std.ReflOrd.compare_self, Ordering.then_eq]

theorem DateTime.order_eq_iff {a b : DateTime} : a.order b = .eq ↔ a = b := by
  rw [order, Ordering.then_eq_eq, Date.order_eq_iff, TimeOfDay.order_eq_iff]
  cases a
  cases b
  rw [DateTime.mk.injEq]

/-! ### Years -/

namespace Calendar

/-- The texts of years by their signs: a plus sign comes before a minus sign, and digits alone come
behind both. -/
def signRank (year : Int) : Nat := if 9999 < year then 0 else if year < 0 then 1 else 2

/-- The number of digits in the text of a year. -/
def yearWidth (year : Int) : Nat := max 4 (Number.natDigits year.natAbs).length

/-- **The order of the texts of years.** -/
def yearOrder (y z : Int) : Ordering :=
  (compare (signRank y) (signRank z)).then
    (Number.spelledOrder y.natAbs (yearWidth y) z.natAbs (yearWidth z))

/-- The sign in front of a year. -/
def yearSign : Nat → List Char
  | 0 => ['+']
  | 1 => ['-']
  | _ => []

theorem yearDigits_eq (year : Int) :
    Date.yearDigits year = yearSign (signRank year) ++ Number.padded 4 year.natAbs := by
  rw [Date.yearDigits, signRank]
  split
  · next inside =>
    rw [Bool.and_eq_true, decide_eq_true_iff, decide_eq_true_iff] at inside
    rw [if_neg (by omega), if_neg (by omega)]
    rfl
  · next outside =>
    rw [Bool.and_eq_true, decide_eq_true_iff, decide_eq_true_iff] at outside
    split
    · next negative =>
      rw [if_neg (by omega)]
      rfl
    · next positive =>
      rw [if_pos (by omega)]
      rfl

/-- Years with one text are the same. -/
theorem yearOrder_eq_iff {y z : Int} : yearOrder y z = .eq ↔ y = z := by
  constructor
  · intro equal
    rw [yearOrder, Number.spelledOrder, Ordering.then_eq_eq, Ordering.then_eq_eq, compare_eq_iff_eq,
      compare_eq_iff_eq, compare_eq_iff_eq] at equal
    -- with one width the digits are compared whole, and with one sign the numbers are the same
    obtain ⟨rank, magnitude, width⟩ := equal
    rw [width, Nat.sub_self, Nat.pow_zero, Nat.div_one, Nat.div_one] at magnitude
    unfold signRank at rank
    split_ifs at rank <;> omega
  · rintro rfl
    rw [yearOrder, Number.spelledOrder_self, Std.ReflOrd.compare_self, Std.ReflOrd.compare_self]
    rfl

/-- **Years of four digits** are in their own order. -/
theorem yearOrder_of_fourDigits {y z : Int} (low : 0 ≤ y) (high : y ≤ 9999) (low' : 0 ≤ z)
    (high' : z ≤ 9999) : yearOrder y z = compare y z := by
  -- they have no sign and one width
  have width {year : Int} (low : 0 ≤ year) (high : year ≤ 9999) : yearWidth year = 4 := by
    have few : (Number.natDigits year.natAbs).length ≤ 4 :=
      (Nat.length_toDigits_le_iff (by decide) (by decide)).2 (by omega)
    exact Nat.max_eq_left few
  have rank {year : Int} (low : 0 ≤ year) (high : year ≤ 9999) : signRank year = 2 := by
    rw [signRank, if_neg (by omega), if_neg (by omega)]
  rw [yearOrder, rank low high, rank low' high', width low high, width low' high',
    Number.spelledOrder_self, Std.ReflOrd.compare_self, Ordering.eq_then]
  obtain ⟨m, rfl⟩ := Int.eq_ofNat_of_zero_le low
  obtain ⟨n, rfl⟩ := Int.eq_ofNat_of_zero_le low'
  exact (compare_of_strictMono Nat.strictMono_cast m n).symm

theorem yearOrder_of_signRank {y z : Int} (less : signRank y < signRank z) :
    yearOrder y z = .lt := by
  rw [yearOrder, Nat.compare_eq_lt.2 less]
  rfl

/-- Years before year zero are in order with those of four digits. -/
theorem yearOrder_of_negative {y z : Int} (negative : y < 0) (low : 0 ≤ z) (high : z ≤ 9999) :
    yearOrder y z = compare y z := by
  rw [compare_lt_iff_lt.2 (negative.trans_le low)]
  refine yearOrder_of_signRank ?_
  rw [signRank, signRank, if_neg (by omega), if_pos negative, if_neg (by omega), if_neg (by omega)]
  decide

/-- Two years before year zero with the same number of digits have the opposite order. -/
theorem yearOrder_of_negatives {y z : Int} (negative : y < 0) (negative' : z < 0)
    (width : yearWidth y = yearWidth z) : yearOrder y z = compare z y := by
  have rank {year : Int} (negative : year < 0) : signRank year = 1 := by
    rw [signRank, if_neg (by omega), if_pos negative]
  rw [yearOrder, rank negative, rank negative', width, Number.spelledOrder_self,
    Std.ReflOrd.compare_self, Ordering.eq_then]
  rcases Int.lt_trichotomy y z with less | rfl | greater
  · rw [compare_gt_iff_gt.2 less, Nat.compare_eq_gt.2 (by omega)]
  · rw [Std.ReflOrd.compare_self, Std.ReflOrd.compare_self]
  · rw [compare_lt_iff_lt.2 greater, Nat.compare_eq_lt.2 (by omega)]

/-- Years of more than four digits are in front of all others. -/
theorem yearOrder_of_long {y z : Int} (long : 9999 < y) (short : z ≤ 9999) :
    yearOrder y z = .lt := by
  refine yearOrder_of_signRank ?_
  rw [signRank, signRank, if_pos long, if_neg (by omega)]
  split <;> decide

/-- The text of a year starts with a sign or a digit. -/
theorem exists_yearDigits (year : Int) :
    ∃ c rest, Date.yearDigits year = c :: rest ∧
      (signRank year = 0 ∧ c = '+' ∨ signRank year = 1 ∧ c = '-' ∨
        signRank year = 2 ∧ c.isDigit) := by
  rw [yearDigits_eq, signRank]
  split
  · exact ⟨_, _, rfl, Or.inl ⟨rfl, rfl⟩⟩
  · split
    · exact ⟨_, _, rfl, Or.inr (Or.inl ⟨rfl, rfl⟩)⟩
    · -- without a sign the first character is a digit, of which there are four at least
      have some : Number.padded 4 year.natAbs ≠ [] := by
        rw [← List.length_pos_iff, Number.length_padded]
        omega
      obtain ⟨c, rest, same⟩ := List.exists_cons_of_ne_nil some
      have digit : c.isDigit := Number.isDigit_padded _ _ c (same ▸ List.mem_cons_self)
      exact ⟨c, rest, same, Or.inr (Or.inr ⟨rfl, digit⟩)⟩

/-- Signs decide on the order of two texts. -/
theorem compare_yearDigits_of_lt {y z : Int} (less : signRank y < signRank z) (s t : List Char) :
    compare (points (Date.yearDigits y ++ s)) (points (Date.yearDigits z ++ t)) = .lt := by
  obtain ⟨c, front, first, sign⟩ := exists_yearDigits y
  obtain ⟨d, front', first', sign'⟩ := exists_yearDigits z
  -- the code points of the signs are below those of the digits
  have lower : c.toNat < d.toNat := by
    have plus : '+'.toNat = 43 := rfl
    have minus : '-'.toNat = 45 := rfl
    rcases sign with ⟨rank, rfl⟩ | ⟨rank, rfl⟩ | ⟨rank, digit⟩ <;>
      rcases sign' with ⟨rank', rfl⟩ | ⟨rank', rfl⟩ | ⟨rank', digit'⟩ <;>
      first
      | omega
      | have := Number.toNat_of_isDigit digit'; omega
  rw [first, first', List.cons_append, List.cons_append, points_cons, points_cons,
    List.compare_cons_cons, Nat.compare_eq_lt.2 lower]
  rfl

/-- **Texts with a year and a hyphen in front** compare by the order of years. -/
theorem compare_yearDigits (y z : Int) (s t : List Char) :
    compare (points (Date.yearDigits y ++ '-' :: s)) (points (Date.yearDigits z ++ '-' :: t)) =
      (yearOrder y z).then (compare (points s) (points t)) := by
  rcases Nat.lt_trichotomy (signRank y) (signRank z) with less | same | greater
  · -- the sign decides alone
    rw [compare_yearDigits_of_lt less, yearOrder_of_signRank less]
    rfl
  · -- the signs are the same, so the digits decide, which the hyphen ends
    calc
      compare (points (Date.yearDigits y ++ '-' :: s)) (points (Date.yearDigits z ++ '-' :: t)) =
          compare (points (Number.padded 4 y.natAbs ++ '-' :: s))
            (points (Number.padded 4 z.natAbs ++ '-' :: t)) := by
        rw [yearDigits_eq, yearDigits_eq, same, List.append_assoc, List.append_assoc,
          points_append, points_append (yearSign (signRank z)), compare_append rfl,
          Std.ReflOrd.compare_self, Ordering.eq_then]
      _ = (Number.spelledOrder y.natAbs (yearWidth y) z.natAbs (yearWidth z)).then
            (compare (points s) (points t)) := by
        rw [Number.compare_digits_mark (Number.isDigit_padded _ _) (Number.isDigit_padded _ _)
          (by decide), Number.ofDigits_padded, Number.ofDigits_padded, Number.length_padded,
          Number.length_padded, yearWidth, yearWidth]
      _ = (yearOrder y z).then (compare (points s) (points t)) := by
        rw [yearOrder, same, Std.ReflOrd.compare_self, Ordering.eq_then]
  · -- the first case with both years exchanged
    rw [Std.OrientedOrd.eq_swap, compare_yearDigits_of_lt greater, yearOrder,
      Nat.compare_eq_gt.2 greater]
    rfl

end Calendar

/-! ### Dates -/

open Calendar

/-- Month and day have two digits. -/
theorem Date.bounds (d : Date) : d.month < 10 ^ 2 ∧ d.day < 10 ^ 2 := by
  have real := d.real
  rw [isDay, Bool.and_eq_true, Bool.and_eq_true, decide_eq_true_iff, decide_eq_true_iff] at real
  obtain ⟨⟨-, some⟩, few⟩ := real
  unfold daysIn at few
  split at few <;> first | (constructor <;> omega) | (split at few <;> constructor <;> omega)

/-- The order of the dates of a year. -/
def Date.orderInYear (a b : Date) : Ordering := (compare a.month b.month).then (compare a.day b.day)

/-- **The text of a date** compares by its year as a text, and within a year by month and day. What
is behind the dates decides if they are the same. -/
theorem Date.compare_digits (a b : Date) (s t : List Char) :
    compare (points (a.digits ++ s)) (points (b.digits ++ t)) =
      ((yearOrder a.year b.year).then (a.orderInYear b)).then (compare (points s) (points t)) := by
  obtain ⟨month, day⟩ := a.bounds
  obtain ⟨month', day'⟩ := b.bounds
  calc
    compare (points (a.digits ++ s)) (points (b.digits ++ t)) =
        compare
          (points (yearDigits a.year ++
            '-' :: (Number.padded 2 a.month ++ '-' :: (Number.padded 2 a.day ++ s))))
          (points (yearDigits b.year ++
            '-' :: (Number.padded 2 b.month ++ '-' :: (Number.padded 2 b.day ++ t)))) := by
      simp only [digits, List.append_assoc, List.cons_append]
    -- month and day have two digits each, so each is compared as a number before what follows
    _ = (yearOrder a.year b.year).then ((compare a.month b.month).then
          ((compare a.day b.day).then (compare (points s) (points t)))) := by
      rw [compare_yearDigits, Number.compare_padded (by decide) month month', points_cons,
        points_cons, compare_cons_self, Number.compare_padded (by decide) day day']
    _ = ((yearOrder a.year b.year).then (a.orderInYear b)).then
          (compare (points s) (points t)) := by
      rw [orderInYear, Ordering.then_assoc, Ordering.then_assoc]

/-! ### Times -/

namespace TimeOfDay

/-- The places of a fraction: as few of zero, three, six or nine as show it. -/
def places (nano : Nat) : Nat :=
  if nano = 0 then 0 else if nano % 1000000 = 0 then 3 else if nano % 1000 = 0 then 6 else 9

theorem fractionDigits_eq {nano : Nat} (some : nano ≠ 0) :
    fractionDigits nano =
      '.' :: Number.padded (places nano) (nano / 10 ^ (9 - places nano)) := by
  rw [fractionDigits, places, if_neg some, if_neg some]
  split
  · rfl
  · split
    · rfl
    · rw [Nat.sub_self, Nat.pow_zero, Nat.div_one]

/-- No place that is shown is too many or too few. -/
theorem places_spec {nano : Nat} (some : nano ≠ 0) :
    0 < places nano ∧ places nano ≤ 9 ∧ nano % 10 ^ (9 - places nano) = 0 := by
  unfold places
  split_ifs with whole milli micro
  · exact absurd whole some
  · exact ⟨by decide, by decide, milli⟩
  · exact ⟨by decide, by decide, micro⟩
  · exact ⟨by decide, by decide, Nat.mod_one nano⟩

/-- With the places of a shorter fraction a longer one is not shown. -/
theorem mod_ne_zero_of_places {m n : Nat} (some : m ≠ 0) (some' : n ≠ 0)
    (fewer : places m < places n) : n % 10 ^ (9 - places m) ≠ 0 := by
  unfold places at fewer ⊢
  split_ifs at fewer ⊢ <;> first | contradiction | omega

section Fractions

variable {m n : Nat} (fits : m < 10 ^ 9) (fits' : n < 10 ^ 9)

include fits fits'

theorem compare_fractionDigits_of_le (some : m ≠ 0) (some' : n ≠ 0)
    (shorter : places m ≤ places n) :
    compare (points (fractionDigits m)) (points (fractionDigits n)) = compare m n := by
  obtain ⟨positive, most, shown⟩ := places_spec some
  obtain ⟨positive', most', shown'⟩ := places_spec some'
  -- the places that are shown are enough for the digits in them
  have room {nano : Nat} (fits : nano < 10 ^ 9) (most : places nano ≤ 9) :
      nano / 10 ^ (9 - places nano) < 10 ^ places nano := by
    rw [Nat.div_lt_iff_lt_mul (by positivity), ← Nat.pow_add, Nat.add_sub_cancel' most]
    exact fits
  calc
    compare (points (fractionDigits m)) (points (fractionDigits n)) =
        Number.spelledOrder (m / 10 ^ (9 - places m)) (places m) (n / 10 ^ (9 - places n))
          (places n) := by
      rw [fractionDigits_eq some, fractionDigits_eq some', points_cons, points_cons,
        compare_cons_self,
        Number.compare_digits (Number.isDigit_padded _ _) (Number.isDigit_padded _ _),
        Number.ofDigits_padded, Number.ofDigits_padded,
        Number.length_padded_of_lt positive (room fits most),
        Number.length_padded_of_lt positive' (room fits' most')]
    -- cut both where the shorter fraction ends: its own rest is zero
    _ = (compare (m / 10 ^ (9 - places m)) (n / 10 ^ (9 - places m))).then
          (compare (m % 10 ^ (9 - places m)) (n % 10 ^ (9 - places m))) := by
      rcases Nat.lt_or_eq_of_le shorter with fewer | equal
      · -- the longer fraction goes on with places that are not all zero
        have leading : n / 10 ^ (9 - places n) / 10 ^ (places n - places m) =
            n / 10 ^ (9 - places m) := by
          rw [Nat.div_div_eq_div_mul, ← Nat.pow_add]
          congr 2
          omega
        have more : 0 < n % 10 ^ (9 - places m) :=
          Nat.pos_of_ne_zero (mod_ne_zero_of_places some some' fewer)
        rw [Number.spelledOrder, leading, Nat.sub_eq_zero_of_le shorter, Nat.pow_zero, Nat.div_one,
          shown, Nat.compare_eq_lt.2 fewer, Nat.compare_eq_lt.2 more]
      · -- with as many places, both rests are zero
        rw [← equal] at shown' ⊢
        rw [Number.spelledOrder_self, shown, shown', Nat.compare_eq_eq.2 rfl, Ordering.then_eq]
    _ = compare m n := (compare_div_mod m n _).symm

/-- **Fractions compare as their texts do**, however many places are shown. -/
theorem compare_fractionDigits :
    compare (points (fractionDigits m)) (points (fractionDigits n)) = compare m n := by
  -- no fraction is written for zero
  rcases Nat.eq_zero_or_pos m with rfl | positive
  · rcases Nat.eq_zero_or_pos n with rfl | positive'
    · rfl
    · rw [fractionDigits_eq (Nat.ne_of_gt positive'), Nat.compare_eq_lt.2 positive']
      rfl
  · rcases Nat.eq_zero_or_pos n with rfl | positive'
    · rw [fractionDigits_eq (Nat.ne_of_gt positive), Nat.compare_eq_gt.2 positive]
      rfl
    · have some := Nat.ne_of_gt positive
      have some' := Nat.ne_of_gt positive'
      -- one direction is enough
      rcases Nat.le_total (places m) (places n) with shorter | longer
      · exact compare_fractionDigits_of_le fits fits' some some' shorter
      · rw [Std.OrientedOrd.eq_swap, compare_fractionDigits_of_le fits' fits some' some longer,
          ← Std.OrientedOrd.eq_swap]

end Fractions

theorem bounds (t : TimeOfDay) :
    t.hour < 10 ^ 2 ∧ t.minute < 10 ^ 2 ∧ t.second < 10 ^ 2 ∧ t.nano < 10 ^ 9 := by
  have real := t.real
  simp only [isTime, Bool.and_eq_true, decide_eq_true_eq] at real
  omega

/-- **The texts of times** are in chronological order. -/
theorem compare_digits (a b : TimeOfDay) :
    compare (points a.digits) (points b.digits) = a.order b := by
  obtain ⟨hour, minute, second, nano⟩ := a.bounds
  obtain ⟨hour', minute', second', nano'⟩ := b.bounds
  rw [digits, digits, Number.compare_padded (by decide) hour hour', points_cons, points_cons,
    compare_cons_self, Number.compare_padded (by decide) minute minute', points_cons, points_cons,
    compare_cons_self, Number.compare_padded (by decide) second second',
    compare_fractionDigits nano nano', order]

end TimeOfDay

/-! ### Stored texts -/

namespace Calendar

/-- **What the stored texts of dates tell of them.** -/
structure Chronological {α : Type} (text : α → String) (year : α → Int)
    (order : α → α → Ordering) (a b : α) : Prop where
  /-- Texts are the same only for the same date. -/
  same : text a = text b ↔ a = b
  /-- Years compare as texts, and dates of a year chronologically. -/
  text_eq : compare (Text.bytes (text a)) (Text.bytes (text b)) =
    (yearOrder (year a) (year b)).then (order a b)
  /-- The order is chronological exactly when it is on the years. -/
  inStep : compare (Text.bytes (text a)) (Text.bytes (text b)) = order a b ↔
    yearOrder (year a) (year b) = compare (year a) (year b)
  /-- The order is chronological on all years of four digits. -/
  fourDigits : 0 ≤ year a → year a ≤ 9999 → 0 ≤ year b → year b ≤ 9999 →
    compare (Text.bytes (text a)) (Text.bytes (text b)) = order a b
  /-- The order is chronological between a year before year zero and one of four digits. -/
  negative : year a < 0 → 0 ≤ year b → year b ≤ 9999 →
    compare (Text.bytes (text a)) (Text.bytes (text b)) = order a b
  /-- Two years before year zero are turned around if they have equally many digits. -/
  negatives : year a < 0 → year b < 0 → yearWidth (year a) = yearWidth (year b) →
    compare (Text.bytes (text a)) (Text.bytes (text b)) =
      (compare (year b) (year a)).then (order a b)
  /-- Dates with more than four digits in the year are in front of all earlier ones without. -/
  long : 9999 < year a → year b ≤ 9999 →
    compare (Text.bytes (text a)) (Text.bytes (text b)) = .lt ∧ order a b = .gt

/-- The texts tell all of this if years compare as texts in them and everything else
chronologically. -/
theorem chronological {α : Type} {text : α → String} {year : α → Int}
    {order inYear : α → α → Ordering} {a b : α}
    (apart : order a b = (compare (year a) (year b)).then (inYear a b))
    (texts : compare (Text.bytes (text a)) (Text.bytes (text b)) =
      (yearOrder (year a) (year b)).then (inYear a b))
    (same : order a b = .eq ↔ a = b) : Chronological text year order a b := by
  have text_eq : compare (Text.bytes (text a)) (Text.bytes (text b)) =
      (yearOrder (year a) (year b)).then (order a b) := by
    rw [texts, apart, ← Ordering.then_assoc]
    congr 1
    -- where the texts of the years are not the same, the years are not asked again
    by_cases equal : year a = year b
    · rw [yearOrder_eq_iff.2 equal, compare_eq_iff_eq.2 equal, Ordering.eq_then]
    · rw [then_of_ne_eq (mt yearOrder_eq_iff.1 equal)]
  -- so the texts are in step with time where the years are, for the rest is chronological on both
  -- sides
  have inStep : compare (Text.bytes (text a)) (Text.bytes (text b)) = order a b ↔
      yearOrder (year a) (year b) = compare (year a) (year b) := by
    by_cases equal : year a = year b
    · rw [text_eq, yearOrder_eq_iff.2 equal, compare_eq_iff_eq.2 equal, Ordering.eq_then]
      exact iff_of_true rfl rfl
    · rw [text_eq, apart, then_of_ne_eq (mt yearOrder_eq_iff.1 equal),
        then_of_ne_eq (mt compare_eq_iff_eq.1 equal)]
  -- the clauses read this off for the years that they are about
  refine ⟨⟨fun equal => ?_, congrArg text⟩, text_eq, inStep, ?_, ?_, ?_, ?_⟩
  · rw [equal, Std.ReflOrd.compare_self] at text_eq
    exact same.1 (Ordering.then_eq_eq.1 text_eq.symm).2
  · exact fun low high low' high' => inStep.2 (yearOrder_of_fourDigits low high low' high')
  · exact fun negative low high => inStep.2 (yearOrder_of_negative negative low high)
  · intro negative negative' width
    rw [text_eq, yearOrder_of_negatives negative negative' width]
  · intro long short
    rw [text_eq, yearOrder_of_long long short, apart,
      compare_gt_iff_gt.2 (Int.lt_of_le_of_lt short long)]
    exact ⟨rfl, rfl⟩

end Calendar

/-- The text of a date without a time compares by its year as a text. -/
theorem Date.compare_text (a b : Date) :
    compare (Text.bytes a.text) (Text.bytes b.text) =
      (yearOrder a.year b.year).then (a.orderInYear b) := by
  have texts := compare_digits a b [] []
  rw [List.append_nil, List.append_nil, Std.ReflOrd.compare_self, Ordering.then_eq] at texts
  rw [Text.compare_bytes, ← Text.compare_strings, text, text, String.toList_ofList,
    String.toList_ofList, texts]

/-- The order of the dates of a year with a time. -/
def DateTime.orderInYear (a b : DateTime) : Ordering :=
  (a.date.orderInYear b.date).then (a.time.order b.time)

/-- **The text of a date with a time** compares by its year as a text, whatever stands behind the
year. -/
theorem DateTime.compare_text (a b : DateTime) :
    compare (Text.bytes a.text) (Text.bytes b.text) =
      (yearOrder a.date.year b.date.year).then (a.orderInYear b) := by
  rw [orderInYear, Text.compare_bytes, ← Text.compare_strings, text, text, String.toList_ofList,
    String.toList_ofList, digits, digits, Date.compare_digits, points_cons, points_cons,
    compare_cons_self, TimeOfDay.compare_digits, Ordering.then_assoc]

/-- **Stored dates are ordered as texts.** This tells dates apart, and it is chronological exactly
as far as the texts of years are. What a query text is converted to is stored as such a text. -/
theorem Calendar.dates_as_texts (a b : Date) (c d : DateTime) (text : String)
    (value : TypedValue) :
    Chronological Date.text Date.year Date.order a b ∧
    Chronological DateTime.text (fun dt => dt.date.year) DateTime.order c d ∧
    (FieldType.date.valueOf? text = some value →
      ∃ day : Date, value = .date day ∧ value.toText? = some day.text) ∧
    (FieldType.dateTime.valueOf? text = some value →
      ∃ dt : DateTime, value = .dateTime dt ∧ value.toText? = some dt.text) := by
  refine ⟨?_, ?_, ?_, ?_⟩
  · exact chronological rfl (a.compare_text b) Date.order_eq_iff
  · refine chronological ?_ (c.compare_text d) DateTime.order_eq_iff
    -- the date comes before the time, and its year before all the rest
    rw [DateTime.order, Date.order, Ordering.then_assoc]
    rfl
  · intro converted
    obtain ⟨day, -, rfl⟩ := Option.map_eq_some_iff.1 converted
    exact ⟨day, rfl, rfl⟩
  · intro converted
    obtain ⟨dt, -, rfl⟩ := Option.map_eq_some_iff.1 converted
    exact ⟨dt, rfl, rfl⟩

/-- The last day of the years of four digits. -/
def Calendar.lastOfFourDigits : Date := ⟨9999, 12, 31, rfl⟩

/-- The day after. -/
def Calendar.firstOfFiveDigits : Date := ⟨10000, 1, 1, rfl⟩

/-- The day after is later, but its text is in front. -/
theorem Calendar.dates_as_texts_fiveDigits :
    FieldType.date.valueOf? "+10000-01-01" = some (.date firstOfFiveDigits) ∧
      (TypedValue.date firstOfFiveDigits).toText? = some firstOfFiveDigits.text ∧
      compare (Text.bytes firstOfFiveDigits.text) (Text.bytes lastOfFourDigits.text) = .lt ∧
      firstOfFiveDigits.order lastOfFourDigits = .gt := by
  have read : FieldType.date.valueOf? "+10000-01-01" = some (.date firstOfFiveDigits) := by cbv
  obtain ⟨dates, -, stored, -⟩ := dates_as_texts firstOfFiveDigits lastOfFourDigits
    (.ofDate firstOfFiveDigits) (.ofDate lastOfFourDigits) "+10000-01-01" (.date firstOfFiveDigits)
  obtain ⟨day, same, spelled⟩ := stored read
  obtain rfl := TypedValue.date.inj same
  exact ⟨read, spelled, dates.long (by decide) (by decide)⟩

end EntitySearch
