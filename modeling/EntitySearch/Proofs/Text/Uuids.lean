import EntitySearch.Proofs.Text.Words
import EntitySearch.Uuid
import Mathlib

/-!
# Reading the text of a UUID back

A UUID is written in lower case in five groups with hyphens between them. Of the forms that it is
read from this is the last to be tried: a hyphen is no hexadecimal digit, so the text is not read as
digits alone (`isSome_hexValue?_of_ofDigits?`), and it begins with a digit, so neither a brace nor
the name of the URN namespace stands in front. Then the hyphens give the groups back, and the groups
the digits (`read?_chars`). In particular different UUIDs have different texts.
-/

namespace EntitySearch

/-- The digit of a value has the value. -/
theorem Number.hexValue?_hexDigit : ∀ n : Fin 16, hexValue? (hexDigit n) = some n := by
  decide

namespace Uuid

variable {s : List Char} {id : Uuid}

/-- Digits alone are all hexadecimal. -/
theorem isSome_hexValue?_of_ofDigits? (read : ofDigits? s = some id) :
    ∀ c ∈ s, (Number.hexValue? c).isSome = true := by
  rw [ofDigits?] at read
  split at read
  · next digits found =>
    clear read
    induction s generalizing digits with
    | nil => exact nofun
    | cons c s ih =>
      rw [List.mapM_cons] at found
      obtain ⟨digit, first, found⟩ := Option.bind_eq_some_iff.1 found
      obtain ⟨others, found, _⟩ := Option.bind_eq_some_iff.1 found
      exact List.forall_mem_cons.2 ⟨by rw [first, Option.isSome_some], ih others found⟩
  · cases read

/-- The digits of a UUID are read as the UUID. -/
theorem ofDigits?_digits (id : Uuid) : ofDigits? (id.digits.map Number.hexDigit) = some id := by
  have read (digits : List (Fin 16)) :
      (digits.map Number.hexDigit).mapM Number.hexValue? = some digits := by
    induction digits with
    | nil => rfl
    | cons n digits ih =>
      rw [List.map_cons, List.mapM_cons, ih, Number.hexValue?_hexDigit]
      rfl
  rw [ofDigits?, read]
  exact dif_pos id.complete

/-- **The groups of a UUID**: five texts without hyphens, which are its digits one after another. -/
theorem exists_chars (id : Uuid) :
    ∃ a b c d e, id.chars = a ++ '-' :: (b ++ '-' :: (c ++ '-' :: (d ++ '-' :: e))) ∧
      a ++ b ++ c ++ d ++ e = id.digits.map Number.hexDigit ∧
      a.length = 8 ∧ b.length = 4 ∧ c.length = 4 ∧ d.length = 4 ∧ e.length = 12 := by
  have length : (id.digits.map Number.hexDigit).length = 32 := by
    rw [List.length_map]
    exact id.complete
  refine ⟨_, _, _, _, _, rfl, ?_, ?_⟩
  · generalize id.digits.map Number.hexDigit = hex
    -- a group and what follows it are put together again
    have join (n : Nat) : (hex.drop n).take 4 ++ hex.drop (n + 4) = hex.drop n := by
      rw [← List.drop_drop, List.take_append_drop]
    rw [List.append_assoc, List.append_assoc, List.append_assoc, join 16, join 12, join 8,
      List.take_append_drop]
  · simp only [List.length_take, List.length_drop, length]
    decide

/-- **The text of a UUID is read as the UUID.** -/
theorem read?_chars (id : Uuid) : read? id.chars = some id := by
  obtain ⟨a, b, c, d, e, spelled, joined, longA, longB, longC, longD, longE⟩ := id.exists_chars
  have digit : ∀ x ∈ a ++ b ++ c ++ d ++ e, ∃ n, x = Number.hexDigit n := by
    rw [joined]
    exact List.forall_mem_map.2 fun n _ => ⟨n, rfl⟩
  have unlike {mark : Char} (other : ∀ n : Fin 16, Number.hexDigit n ≠ mark) :
      mark ∉ a ++ b ++ c ++ d ++ e := by
    intro mem
    obtain ⟨n, same⟩ := digit mark mem
    exact other n same.symm
  have hyphen : '-' ∉ a ++ b ++ c ++ d ++ e := unlike (by decide)
  simp only [List.mem_append, not_or] at hyphen
  obtain ⟨⟨⟨⟨noneA, noneB⟩, noneC⟩, noneD⟩, noneE⟩ := hyphen
  -- cut at the hyphens, the groups have the lengths that are asked for
  have grouped : ofHyphenated? id.chars = some id := by
    rw [ofHyphenated?, spelled, Text.splitAt_append noneA, Text.splitAt_append noneB,
      Text.splitAt_append noneC, Text.splitAt_append noneD, Text.splitAt_of_not_mem noneE]
    simp only [longA, longB, longC, longD, longE, decide_true, Bool.and_self, ↓reduceIte]
    rw [joined, ofDigits?_digits]
  -- without hyphens only digits are read
  have alone : ofDigits? id.chars = none := by
    refine Option.eq_none_iff_forall_ne_some.2 fun other read => ?_
    have mem : '-' ∈ id.chars := by
      rw [spelled]
      simp
    exact absurd (isSome_hexValue?_of_ofDigits? read '-' mem) (by decide)
  -- the first character is a digit, which begins none of the other forms
  obtain ⟨first, more, rfl⟩ := List.exists_cons_of_length_pos (by omega : 0 < a.length)
  have other {mark : Char} (none : ∀ n : Fin 16, Number.hexDigit n ≠ mark) : first ≠ mark := by
    rintro rfl
    exact unlike none (by simp)
  have braces : inBraces? id.chars = none := by
    rw [spelled]
    exact if_neg (other (by decide))
  have urn : afterUrn? id.chars = none := by
    have missed {mark : Char} (none : ∀ n : Fin 16, Number.hexDigit n ≠ mark)
        (expected : List Char) : Text.after? (mark :: expected) id.chars = .none := by
      rw [spelled]
      exact if_neg (other none).symm
    rw [afterUrn?, show "urn:uuid:".toList = 'u' :: "rn:uuid:".toList from rfl,
      show "URN:UUID:".toList = 'U' :: "RN:UUID:".toList from rfl, missed (by decide),
      missed (by decide)]
  rw [read?, alone, braces, urn]
  exact grouped

/-- Different UUIDs have different texts. -/
theorem text_injective : Function.Injective Uuid.text := by
  intro a b same
  have chars : a.chars = b.chars := String.ofList_injective same
  have read := read?_chars a
  rw [chars, read?_chars b] at read
  exact (Option.some.inj read).symm

/-- There is no white space in the text of a UUID. -/
theorem noBlank_chars (id : Uuid) : Text.NoBlank id.chars := by
  obtain ⟨a, b, c, d, e, spelled, joined, -⟩ := id.exists_chars
  have plain : Text.NoBlank (a ++ b ++ c ++ d ++ e) := by
    have none : ∀ n : Fin 16, Text.isBlank (Number.hexDigit n) = false := by decide
    rw [joined]
    exact List.forall_mem_map.2 fun n _ => none n
  simp only [Text.NoBlank, List.forall_mem_append] at plain
  obtain ⟨⟨⟨⟨plainA, plainB⟩, plainC⟩, plainD⟩, plainE⟩ := plain
  simp only [spelled, Text.NoBlank, List.forall_mem_append, List.forall_mem_cons]
  exact ⟨plainA, rfl, plainB, rfl, plainC, rfl, plainD, rfl, plainE⟩

end Uuid

end EntitySearch
