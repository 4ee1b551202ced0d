import EntitySearch.Proofs.Calendar.Chronology
import EntitySearch.Proofs.Numbers.Reading
import EntitySearch.Proofs.Text.Words
import Mathlib

/-!
# Reading the texts of dates back

Dates and times are read in many spellings: with white space in front of numbers, fewer digits,
more places of a second than are kept, a blank for the `T`, or an offset from UTC. They are written
in one, and this one is read back as the same date or time.

A layout is gone through part by part, and every part takes exactly what was written for it. A
number of fixed width ends with its last digit (`takeNumber?_padded`), a year with the hyphen
(`takeYear?_yearDigits`), and a fraction with the text (`takeFraction?_fractionDigits`). So a layout
takes a date with whatever follows it (`takeAll?_date`) and a time at the end of a text
(`takeAll?_time`). A date and time has no offset, and none of the spellings with an offset is one
without (`readOffsetDateTime?_digits`), so the first layout is the one that reads it.
-/

namespace EntitySearch

namespace Calendar

open Number (ofDigits padded)

variable {digits rest : List Char}

/-! ### Numbers -/

/-- A character other than white space is not passed over. -/
theorem trimStart_cons {c : Char} (plain : Text.isBlank c = false) (s : List Char) :
    Text.trimStart (c :: s) = c :: s :=
  List.dropWhile_cons_of_neg (by simp [plain])

/-- **A run of digits is taken** when it has the greatest length or ends in front of something
else. -/
theorem takeNumber?_append {most : Nat} (some : digits ≠ []) (all : ∀ c ∈ digits, c.isDigit)
    (few : digits.length ≤ most)
    (ends : digits.length = most ∨ ∀ c ∈ rest.head?, c.isDigit = false) :
    takeNumber? most (digits ++ rest) = .some (ofDigits 0 digits, rest) := by
  have taken : ((digits ++ rest).take most).takeWhile Char.isDigit = digits := by
    rw [List.take_append, List.take_of_length_le few, List.takeWhile_append_of_pos all]
    -- behind the run the digits have ended: there is no room left, or another character stands
    -- there
    have none : (rest.take (most - digits.length)).takeWhile Char.isDigit = [] := by
      rcases ends with full | other
      · rw [full, Nat.sub_self, List.take_zero, List.takeWhile_nil]
      · cases rest with
        | nil => rw [List.take_nil, List.takeWhile_nil]
        | cons c rest =>
          have first : ¬ c.isDigit = true := by rw [other c rfl]; exact Bool.false_ne_true
          cases most - digits.length with
          | zero => rfl
          | succ k => rw [List.take_succ_cons, List.takeWhile_cons_of_neg first]
    rw [none, List.append_nil]
  have full : digits.isEmpty = false := List.isEmpty_eq_false_iff.2 some
  rw [takeNumber?, taken]
  simp only [full, Bool.false_eq_true, ↓reduceIte, List.drop_left]

theorem padded_ne_nil {width : Nat} (positive : 0 < width) (n : Nat) : padded width n ≠ [] := by
  apply List.ne_nil_of_length_pos
  rw [Number.length_padded]
  omega

/-- Digits have no white space in front. -/
theorem trimStart_padded {width : Nat} (positive : 0 < width) (n : Nat) (rest : List Char) :
    Text.trimStart (padded width n ++ rest) = padded width n ++ rest := by
  obtain ⟨c, digits, spelled⟩ := List.exists_cons_of_ne_nil (padded_ne_nil positive n)
  have digit : c.isDigit := Number.isDigit_padded width n c (spelled ▸ List.mem_cons_self)
  rw [spelled, List.cons_append, trimStart_cons (Text.isBlank_of_isDigit digit)]

/-- **A number of fixed width** is taken from in front of anything. -/
theorem takeNumber?_padded {width n : Nat} (positive : 0 < width) (fits : n < 10 ^ width)
    (rest : List Char) : takeNumber? width (padded width n ++ rest) = some (n, rest) := by
  have length := Number.length_padded_of_lt positive fits
  rw [takeNumber?_append (padded_ne_nil positive n) (Number.isDigit_padded width n)
    (Nat.le_of_eq length) (Or.inl length), Number.ofDigits_padded]

/-- A number of two digits is taken, as for a month and for the parts of a time. -/
theorem takeNumber?_two {n : Nat} (fits : n < 10 ^ 2) (rest : List Char) :
    takeNumber? 2 (Text.trimStart (padded 2 n ++ rest)) = some (n, rest) := by
  rw [trimStart_padded Nat.two_pos, takeNumber?_padded Nat.two_pos fits]

/-- Digits of a fixed count. -/
theorem takeExactly?_padded {width n : Nat} (positive : 0 < width) (fits : n < 10 ^ width)
    (rest : List Char) : takeExactly? width (padded width n ++ rest) = some (n, rest) := by
  have length := Number.length_padded_of_lt positive fits
  have read : Number.readNat? (padded width n) = some n :=
    Number.readNat?_eq_some_iff.2
      ⟨padded_ne_nil positive n, Number.isDigit_padded width n, (Number.ofDigits_padded _ _).symm⟩
  have front : (padded width n ++ rest).take width = padded width n := List.take_left' length
  have behind : (padded width n ++ rest).drop width = rest := List.drop_left' length
  rw [takeExactly?, front, if_pos length, read, behind]
  rfl

/-- **The year of a date** is taken from in front of the hyphen. -/
theorem takeYear?_yearDigits (year : Int) (rest : List Char) :
    takeYear? (Text.trimStart (Date.yearDigits year ++ '-' :: rest)) =
      some (year, '-' :: rest) := by
  have long : takeLongNumber? (padded 4 year.natAbs ++ '-' :: rest) =
      some (year.natAbs, '-' :: rest) := by
    unfold takeLongNumber?
    rw [takeNumber?_append (padded_ne_nil (by decide) _) (Number.isDigit_padded 4 _) (by simp)
      (Or.inr (by simp)), Number.ofDigits_padded]
  rw [yearDigits_eq, signRank]
  split
  · -- a year of more than four digits has a plus sign
    show takeYear? ('+' :: (padded 4 year.natAbs ++ '-' :: rest)) = _
    rw [takeYear?, long]
    show some ((year.natAbs : Int), '-' :: rest) = _
    congr 2
    omega
  · split
    · -- a year before year zero has a minus sign, which is the sign of the number
      show takeYear? ('-' :: (padded 4 year.natAbs ++ '-' :: rest)) = _
      rw [takeYear?, long]
      show some (-(year.natAbs : Int), '-' :: rest) = _
      congr 2
      omega
    · -- four digits end the year themselves
      show takeYear? (Text.trimStart (padded 4 year.natAbs ++ '-' :: rest)) = _
      have read : takeNumber? 4 (padded 4 year.natAbs ++ '-' :: rest) =
          some (year.natAbs, '-' :: rest) :=
        takeNumber?_padded (by decide) (by omega) ('-' :: rest)
      rw [trimStart_padded (by decide)]
      -- the first digit is no sign, so the reader for years without one is asked
      obtain ⟨c, digits, spelled⟩ :=
        List.exists_cons_of_ne_nil (padded_ne_nil (by decide : 0 < 4) year.natAbs)
      have digit : c.isDigit := Number.isDigit_padded 4 _ c (spelled ▸ List.mem_cons_self)
      obtain ⟨minus, plus⟩ := Double.ne_sign_of_isDigit digit
      rw [spelled, List.cons_append] at read ⊢
      rw [takeYear?, read]
      · show some ((year.natAbs : Int), '-' :: rest) = _
        congr 2
        omega
      · rintro _ same
        exact minus (List.cons.inj same).1
      · rintro _ same
        exact plus (List.cons.inj same).1

/-- **A fraction of a second** is taken from the end of a text. -/
theorem takeFraction?_fractionDigits {nano : Nat} (fits : nano < 10 ^ 9) :
    takeFraction? (TimeOfDay.fractionDigits nano) = some (nano, []) := by
  by_cases zero : nano = 0
  · subst zero
    rfl
  · obtain ⟨positive, most, shown⟩ := TimeOfDay.places_spec zero
    rw [TimeOfDay.fractionDigits_eq zero, takeFraction?, takeNanos?]
    set places := TimeOfDay.places nano
    set value := nano / 10 ^ (9 - places) with cut
    have all := Number.isDigit_padded places value
    -- the places that are left out are zeros, so the value of those that are shown gives all of it
    have whole : value * 10 ^ (9 - places) = nano := by
      rw [cut]
      exact Nat.div_mul_cancel (Nat.dvd_of_mod_eq_zero shown)
    have room : value < 10 ^ places := by
      rw [cut, Nat.div_lt_iff_lt_mul (by positivity), ← Nat.pow_add, Nat.add_sub_cancel' most]
      exact fits
    have length : (padded places value).length = places := Number.length_padded_of_lt positive room
    have taken : (padded places value).takeWhile Char.isDigit = padded places value :=
      List.takeWhile_eq_self_iff.2 all
    have full : (padded places value).isEmpty = false :=
      List.isEmpty_eq_false_iff.2 (padded_ne_nil positive value)
    -- there are at most nine places, so none is dropped and none is left over
    have kept : (padded places value).take 9 = padded places value := by
      apply List.take_of_length_le
      rw [length]
      exact most
    have none : (padded places value).drop places = [] :=
      List.drop_of_length_le (Nat.le_of_eq length)
    simp only [taken, full, Bool.false_eq_true, ↓reduceIte, kept, length, Number.ofDigits_padded,
      none]
    show some (value * 10 ^ (9 - places), []) = _
    rw [whole]

/-! ### Layouts -/

theorem takeMark?_self (mark : Char) (s : List Char) : takeMark? mark (mark :: s) = some s :=
  takeMark?_eq_some_iff.2 rfl

/-- **The layout of a date** takes the text of a date from in front of anything. -/
theorem takeAll?_date (d : Date) (parts : List LayoutPart) (m : Moment) (rest : List Char) :
    takeAll? (dateLayout ++ parts) m (d.digits ++ rest) =
      takeAll? parts { m with year := d.year, month := d.month, day := d.day } rest := by
  obtain ⟨month, day⟩ := d.bounds
  have spelled : d.digits ++ rest =
      Date.yearDigits d.year ++ '-' :: (padded 2 d.month ++ '-' :: (padded 2 d.day ++ rest)) := by
    simp only [Date.digits, List.append_assoc, List.cons_append]
  rw [spelled]
  show takeAll? (.year :: .mark '-' :: .month :: .mark '-' :: .day :: parts) m _ = _
  simp only [takeAll?, LayoutPart.take?, takeYear?_yearDigits, takeNumber?_two month,
    takeNumber?_two day, takeMark?_self, Option.map_some, Option.bind_some]

/-- **The layout of a time** takes the text of a time at the end. -/
theorem takeAll?_time (t : TimeOfDay) (m : Moment) :
    takeAll? timeLayout m t.digits =
      some { m with hour := t.hour, minute := t.minute, second := t.second, nano := t.nano } := by
  obtain ⟨hour, minute, second, nano⟩ := t.bounds
  rw [timeLayout, TimeOfDay.digits]
  simp only [takeAll?, LayoutPart.take?, takeNumber?_two hour, takeNumber?_two minute,
    takeNumber?_two second, takeFraction?_fractionDigits nano, takeMark?_self, Option.map_some,
    Option.bind_some, List.isEmpty_nil, ↓reduceIte]

/-- **The text of a date and time has no offset**, so it is not read as one with an offset. -/
theorem readOffsetDateTime?_digits (dt : DateTime) : readOffsetDateTime? dt.digits = none := by
  obtain ⟨month, day⟩ := dt.date.bounds
  obtain ⟨hour, minute, second, nano⟩ := dt.time.bounds
  have spelled : dt.digits = Date.yearDigits dt.date.year ++ '-' :: (padded 2 dt.date.month ++
      '-' :: (padded 2 dt.date.day ++ 'T' :: dt.time.digits)) := by
    simp only [DateTime.digits, Date.digits, List.append_assoc, List.cons_append]
  by_cases short : 0 ≤ dt.date.year ∧ dt.date.year ≤ 9999
  · -- everything up to the offset is there, and then the text ends
    have year : Date.yearDigits dt.date.year = padded 4 dt.date.year.natAbs := by
      rw [Date.yearDigits, decide_eq_true short.1, decide_eq_true short.2]
      rfl
    have fits : dt.date.year.natAbs < 10 ^ 4 := by omega
    -- a step that succeeds hands over to the next one
    have step {α β : Type} {x : Option α} {a : α} {f : α → Option β} (found : x = some a) :
        (x >>= f) = f a := by
      rw [found]
      rfl
    rw [spelled, year, TimeOfDay.digits]
    refine (step (takeExactly?_padded (by decide) fits _)).trans ?_
    refine (step (takeMark?_self '-' _)).trans ?_
    refine (step (takeExactly?_padded Nat.two_pos month _)).trans ?_
    refine (step (takeMark?_self '-' _)).trans ?_
    refine (step (takeExactly?_padded Nat.two_pos day _)).trans ?_
    refine (step (takeExactly?_padded Nat.two_pos hour _)).trans ?_
    refine (step (takeMark?_self ':' _)).trans ?_
    refine (step (takeExactly?_padded Nat.two_pos minute _)).trans ?_
    refine (step (takeMark?_self ':' _)).trans ?_
    refine (step (takeExactly?_padded Nat.two_pos second _)).trans ?_
    exact step (takeFraction?_fractionDigits nano)
  · -- the year has a sign, which is none of its digits
    obtain ⟨c, digits, year, sign⟩ := exists_yearDigits dt.date.year
    have other : c.isDigit = false := by
      rcases sign with ⟨-, rfl⟩ | ⟨-, rfl⟩ | ⟨rank, -⟩
      · rfl
      · rfl
      · exfalso
        unfold signRank at rank
        split_ifs at rank <;> omega
    have none : takeExactly? 4 dt.digits = .none := by
      rw [spelled, year, takeExactly?]
      split
      · rw [Number.readNat?, List.cons_append, List.take_succ_cons, List.all_cons, other]
        rfl
      · rfl
    rw [readOffsetDateTime?, none]
    rfl

/-! ### Reading back -/

/-- **The text of a date is read as the date.** -/
theorem readDate?_digits (d : Date) : readDate? d.digits = some d := by
  have taken := takeAll?_date d [] {} []
  rw [List.append_nil, List.append_nil] at taken
  rw [readDate?, taken]
  exact dif_pos d.real

/-- **The text of a date and time is read as the date and time**, with the same fraction and with a
leap second where it has one. -/
theorem readDateTime?_digits (dt : DateTime) : readDateTime? dt.digits = some dt := by
  have taken : takeAll? (dateLayout ++ .mark 'T' :: timeLayout) {} dt.digits =
      some ⟨dt.date.year, dt.date.month, dt.date.day, dt.time.hour, dt.time.minute, dt.time.second,
        dt.time.nano⟩ := by
    rw [DateTime.digits, takeAll?_date]
    simp only [takeAll?, LayoutPart.take?, takeMark?_self, Option.map_some, Option.bind_some,
      takeAll?_time]
  -- what was taken makes the date and the time again, since both are real
  have date : Date.of? dt.date.year dt.date.month dt.date.day = some dt.date := dif_pos dt.date.real
  have time : TimeOfDay.of? dt.time.hour dt.time.minute dt.time.second dt.time.nano =
      some dt.time := dif_pos dt.time.real
  rw [readDateTime?, readOffsetDateTime?_digits, dateTimeLayouts, List.findSome?_cons, taken]
  simp only [Option.bind_some, Moment.dateTime?, Moment.date?, date, time]

end Calendar

/-! ### White space -/

theorem Number.noBlank_padded (width n : Nat) : Text.NoBlank (padded width n) := fun c mem =>
  Text.isBlank_of_isDigit (isDigit_padded width n c mem)

theorem Date.noBlank_digits (d : Date) : Text.NoBlank d.digits := by
  have year : Text.NoBlank (yearDigits d.year) := by
    rw [Calendar.yearDigits_eq]
    refine List.forall_mem_append.2 ⟨?_, Number.noBlank_padded 4 _⟩
    unfold Calendar.yearSign
    split <;> exact Text.NoBlank.of_all rfl
  exact List.forall_mem_append.2 ⟨year, List.forall_mem_cons.2 ⟨rfl, List.forall_mem_append.2
    ⟨Number.noBlank_padded 2 _, List.forall_mem_cons.2 ⟨rfl, Number.noBlank_padded 2 _⟩⟩⟩⟩

theorem TimeOfDay.noBlank_digits (t : TimeOfDay) : Text.NoBlank t.digits := by
  have fraction : Text.NoBlank (fractionDigits t.nano) := by
    by_cases zero : t.nano = 0
    · rw [zero]
      exact .of_all rfl
    · rw [fractionDigits_eq zero]
      exact List.forall_mem_cons.2 ⟨rfl, Number.noBlank_padded _ _⟩
  exact List.forall_mem_append.2 ⟨Number.noBlank_padded 2 _, List.forall_mem_cons.2 ⟨rfl,
    List.forall_mem_append.2 ⟨Number.noBlank_padded 2 _, List.forall_mem_cons.2 ⟨rfl,
      List.forall_mem_append.2 ⟨Number.noBlank_padded 2 _, fraction⟩⟩⟩⟩⟩

theorem DateTime.noBlank_digits (dt : DateTime) : Text.NoBlank dt.digits :=
  List.forall_mem_append.2 ⟨dt.date.noBlank_digits, List.forall_mem_cons.2
    ⟨rfl, dt.time.noBlank_digits⟩⟩

end EntitySearch
