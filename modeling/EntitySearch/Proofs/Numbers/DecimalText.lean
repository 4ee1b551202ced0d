import EntitySearch.Proofs.Numbers.Places
import EntitySearch.Proofs.Numbers.Reading
import Mathlib

/-!
# Decimals as texts

A decimal is written with exactly the places of its scale and without an exponent, and that is one
of the spellings it is read from: the digits are taken one after another, in front of the point and
behind it, and no digit has to be rounded away as long as mantissa and scale are in range.

They always are. Whatever a decimal is read from, be it rounded, shifted by an exponent or both,
its parts are in range and zero has no sign (`Decimal.Fits`, `fits_of_read?`), and a decimal with
these properties is read back from its text as it is, with the same scale (`Fits.read?_text`).
-/

namespace EntitySearch

open Number (ofDigits)

namespace Decimal

/-- **A decimal in range**: mantissa and scale are below their bounds, and zero has no sign. -/
structure Fits (d : Decimal) : Prop where
  mantissa : d.mantissa < limit
  scale : d.scale ≤ maxScale
  sign : d.negative = true → d.mantissa ≠ 0

variable {negative : Bool} {mantissa scale : Nat} {d : Decimal}

/-! ### What is read is in range -/

theorem fits_make (small : mantissa < limit) (few : scale ≤ maxScale) :
    (make negative mantissa scale).Fits where
  mantissa := small
  scale := few
  sign := by
    intro signed
    show mantissa ≠ 0
    simpa using (Bool.and_eq_true_iff.1 signed).2

/-- **Rounding up** keeps a decimal in range, for at the bound it takes a place off. -/
theorem fits_of_roundUp? (small : mantissa < limit) (few : scale ≤ maxScale)
    (rounded : roundUp? negative mantissa scale = some d) : d.Fits := by
  unfold roundUp? at rounded
  split at rounded
  · next next =>
    obtain rfl := Option.some.inj rounded
    exact fits_make next few
  · split at rounded
    · cases rounded
    · obtain rfl := Option.some.inj rounded
      -- at the bound a tenth of it is left, with one place less
      have bound : limit = 79228162514264337593543950336 := by decide
      exact fits_make (by omega) (by omega)

theorem fits_of_endAt? {c : Char} (small : mantissa < limit) (few : scale ≤ maxScale)
    (ended : endAt? negative mantissa scale c = some d) : d.Fits := by
  unfold endAt? at ended
  split at ended
  · split at ended
    · exact fits_of_roundUp? small few ended
    · obtain rfl := Option.some.inj ended
      exact fits_make small few
  · split at ended
    · obtain rfl := Option.some.inj ended
      exact fits_make small few
    · cases ended

/-- **An exponent** is refused where it would leave the range. -/
theorem fits_of_scaled? {exponent : Int} (small : mantissa < limit)
    (moved : scaled? negative mantissa scale exponent = some d) : d.Fits := by
  unfold scaled? at moved
  dsimp only at moved
  split at moved
  · -- the exponent takes from the scale or adds to it
    split at moved
    · next few =>
      obtain rfl := Option.some.inj moved
      exact fits_make small few
    · cases moved
  · -- the exponent is more than the scale, so zeros are appended to the mantissa
    split at moved
    · cases moved
    · split at moved
      · next small =>
        obtain rfl := Option.some.inj moved
        exact fits_make small (Nat.zero_le _)
      · cases moved

/-- **Digit by digit** mantissa and scale stay in range. -/
theorem fits_of_readDigits? {seen pointed : Bool} {s : List Char} (small : mantissa < limit)
    (few : scale ≤ maxScale) (read : readDigits? negative seen pointed mantissa scale s = some d) :
    d.Fits := by
  induction s generalizing seen pointed mantissa scale with
  | nil =>
    -- at the end of the text the number is what was read so far
    unfold readDigits? at read
    split at read
    · obtain rfl := Option.some.inj read
      exact fits_make small few
    · cases read
  | cons c rest ih =>
    unfold readDigits? at read
    split at read
    · obtain ⟨exponent, -, moved⟩ := Option.bind_eq_some_iff.1 read
      exact fits_of_scaled? small moved
    · split at read
      · exact fits_of_endAt? small few read
      · next room =>
        split at read
        · dsimp only at read
          split at read
          · next small' =>
            -- one more place fits, or the point has not been read
            refine ih small' ?_ read
            cases pointed with
            | false => exact few
            | true =>
              have other : scale ≠ maxScale := by simpa using room
              exact Nat.lt_of_le_of_ne few other
          · split at read
            · exact fits_of_endAt? small few read
            · cases read
        · split at read
          · exact ih small few read
          · split at read
            · exact ih small few read
            · cases read

/-- **Every decimal that is read is in range.** -/
theorem fits_of_read? {s : List Char} (read : read? s = some d) : d.Fits := by
  have start : 0 < limit := by decide
  unfold read? at read
  split at read <;> exact fits_of_readDigits? start (Nat.zero_le _) read

/-! ### Reading the text of a decimal -/

/-- **The parts of the text**: digits for the mantissa, of which as many as the scale tells stand
behind the point. -/
theorem exists_text (d : Decimal) :
    ∃ c whole places, (∀ digit ∈ c :: whole, digit.isDigit) ∧ (∀ digit ∈ places, digit.isDigit) ∧
      ofDigits (ofDigits 0 (c :: whole)) places = d.mantissa ∧ places.length = d.scale ∧
      d.text.toList = Number.signed d.negative
        (c :: whole ++ if places.isEmpty then [] else '.' :: places) := by
  set digits := Number.padded (d.scale + 1) d.mantissa with spelled
  have long : d.scale + 1 ≤ digits.length := by
    rw [spelled, Number.length_padded]
    exact Nat.le_max_left _ _
  have all : ∀ digit ∈ digits, digit.isDigit := Number.isDigit_padded _ _
  -- there is one digit more than places, so some stand in front of the point
  obtain ⟨c, whole, front⟩ : ∃ c whole, digits.take (digits.length - d.scale) = c :: whole := by
    apply List.exists_cons_of_ne_nil
    apply List.ne_nil_of_length_pos
    rw [List.length_take]
    omega
  refine ⟨c, whole, digits.drop (digits.length - d.scale), ?_, ?_, ?_, ?_, ?_⟩
  · rw [← front]
    exact fun digit mem => all digit (List.mem_of_mem_take mem)
  · exact fun digit mem => all digit (List.mem_of_mem_drop mem)
  · -- cutting the digits in two changes nothing in their value
    calc ofDigits (ofDigits 0 (c :: whole)) (digits.drop (digits.length - d.scale))
        = ofDigits 0 (digits.take (digits.length - d.scale) ++
            digits.drop (digits.length - d.scale)) := by
          rw [Double.ofDigits_append, front]
      _ = ofDigits 0 digits := by rw [List.take_append_drop]
      _ = d.mantissa := Number.ofDigits_padded _ _
  · rw [List.length_drop]
    omega
  · unfold text
    rw [String.toList_ofList, ← spelled]
    show Number.signed d.negative (if _ then _ else _) = _
    rw [front]
    split <;> simp

/-- **Reading the text of a decimal** gives the decimal, with the same scale. -/
theorem Fits.read?_text (fits : d.Fits) : read? d.text.toList = some d := by
  obtain ⟨c, whole, places, all, all', value, scale, spelled⟩ := d.exists_text
  have digit : c.isDigit := all c List.mem_cons_self
  -- the digits in front of the point are no more than all of them
  have inFront : ofDigits 0 (c :: whole) < limit :=
    lt_of_le_of_lt (Json.le_ofDigits _ places) (value ▸ fits.mantissa)
  -- there is no negative zero
  have same : make d.negative d.mantissa d.scale = d := by
    have sign : (d.negative && d.mantissa != 0) = d.negative := by
      cases signed : d.negative with
      | false => rfl
      | true => simpa using fits.sign signed
    rw [make, sign]
  rw [spelled, List.cons_append, read?_signed digit, ← List.cons_append,
    readDigits?_append all inFront (fun behind => absurd behind Bool.false_ne_true)]
  cases places with
  | nil =>
    -- without places the digits are the whole number
    calc some (make d.negative (ofDigits 0 (c :: whole)) 0)
        = some (make d.negative d.mantissa d.scale) := by
          rw [← value, ← scale]
          rfl
      _ = some d := congrArg some same
  | cons p places =>
    show readDigits? d.negative true true (ofDigits 0 (c :: whole)) 0 (p :: places) = _
    -- the places are as many as the scale, which is in range
    have room : true = true → 0 + (p :: places).length ≤ maxScale := fun _ => by
      rw [Nat.zero_add, scale]
      exact fits.scale
    have read : readDigits? d.negative true true (ofDigits 0 (c :: whole)) 0
        (p :: places ++ []) = _ :=
      readDigits?_append all' (value ▸ fits.mantissa) room
    rw [List.append_nil] at read
    rw [read, value, if_pos rfl, Nat.zero_add, scale]
    exact congrArg some same

/-- There is no white space in the text of a decimal. -/
theorem noBlank_text (d : Decimal) : Text.NoBlank d.text.toList := by
  obtain ⟨c, whole, places, all, all', -, -, spelled⟩ := d.exists_text
  intro x mem
  -- only a sign, a point and digits are written
  have char : x = '-' ∨ x = '.' ∨ x.isDigit := by
    rw [spelled] at mem
    have unsigned (mem : x ∈ c :: whole ++ if places.isEmpty then [] else '.' :: places) :
        x = '.' ∨ x.isDigit := by
      rcases List.mem_append.1 mem with mem | mem
      · exact Or.inr (all x mem)
      · split at mem
        · cases mem
        · exact (List.mem_cons.1 mem).imp_right (all' x)
    unfold Number.signed at mem
    split at mem
    · exact (List.mem_cons.1 mem).imp_right unsigned
    · exact Or.inr (unsigned mem)
  rcases char with rfl | rfl | digit
  · rfl
  · rfl
  · exact Text.isBlank_of_isDigit digit

end Decimal

end EntitySearch
