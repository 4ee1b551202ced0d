import EntitySearch.Json.Reader
import EntitySearch.Json.Text
import Mathlib

/-!
# Reading numbers and strings

A reader takes a number off the front of a text. It takes the same number whatever follows, as long
as that cannot go on the number (`EndsNumber`): a digit, a point or an exponent would. So it is
enough to know how a number is read alone (`isLocal_readNumber?`). The digits of an integer of 64
bits are read as that integer (`readNumber?_natDigits`).

A string is written character by character, some of them as escapes, and every escape is read as the
character that it was written for (`readString?_escaped`).
-/

namespace EntitySearch.Json

/-! ### What may follow a value -/

/-- **A text that cannot go on a number**, as it may follow a value. -/
def EndsNumber (rest : List Char) : Prop :=
  ∀ c ∈ rest.head?, c.isDigit = false ∧ c ≠ '.' ∧ c ≠ 'e' ∧ c ≠ 'E'

theorem endsNumber_nil : EndsNumber [] := by
  intro c mem
  cases mem

section Digits

variable {rest : List Char}

theorem endsNumber_cons {c : Char} (h : c.isDigit = false ∧ c ≠ '.' ∧ c ≠ 'e' ∧ c ≠ 'E') :
    EndsNumber (c :: rest) := by
  intro d mem
  obtain rfl := Option.some.inj mem
  exact h

/-- The digits at the start of a text are not changed by what follows a number. -/
theorem takeWhile_isDigit_append (ends : EndsNumber rest) (s : List Char) :
    (s ++ rest).takeWhile Char.isDigit = s.takeWhile Char.isDigit := by
  have none : rest.takeWhile Char.isDigit = [] := by
    cases rest with
    | nil => rfl
    | cons c rest => rw [List.takeWhile_cons, (ends c rfl).1]; rfl
  rw [List.takeWhile_append, none, List.append_nil]
  split
  · next all => exact ((List.takeWhile_prefix _).eq_of_length all).symm
  · rfl

/-- What stands behind the digits of a text keeps what follows the number. -/
theorem dropWhile_isDigit_append (ends : EndsNumber rest) (s : List Char) :
    (s ++ rest).dropWhile Char.isDigit = s.dropWhile Char.isDigit ++ rest := by
  have whole : (s ++ rest).takeWhile Char.isDigit ++ (s ++ rest).dropWhile Char.isDigit =
      s.takeWhile Char.isDigit ++ (s.dropWhile Char.isDigit ++ rest) := by
    rw [List.takeWhile_append_dropWhile, ← List.append_assoc, List.takeWhile_append_dropWhile]
  rw [takeWhile_isDigit_append ends] at whole
  exact List.append_cancel_left whole

theorem dropDigits_append (ends : EndsNumber rest) (s : List Char) :
    dropDigits (s ++ rest) = ((dropDigits s).1, (dropDigits s).2 ++ rest) := by
  rw [dropDigits, takeWhile_isDigit_append ends, dropWhile_isDigit_append ends]
  rfl

theorem takeDigits64_append (ends : EndsNumber rest) (s : List Char) (number count : Nat) :
    takeDigits64 number count (s ++ rest) =
      ((takeDigits64 number count s).1, (takeDigits64 number count s).2.1,
        (takeDigits64 number count s).2.2 ++ rest) := by
  induction s generalizing number count with
  | nil =>
    cases rest with
    | nil => rfl
    -- what follows does not start with a digit
    | cons c rest => exact if_neg (Bool.eq_false_iff.1 (ends c rfl).1)
  | cons c s ih =>
    rw [List.cons_append, takeDigits64, takeDigits64]
    split
    · -- the digit is taken if the number still fits, and ends it otherwise
      dsimp only
      split
      · exact ih _ _
      · rfl
    · rfl

end Digits

/-! ### Numbers -/

section Numbers

variable {negative : Bool} {digits : Nat} {exponent : Int} {s rest : List Char}

/-- **A reader that only looks at what it takes**: it takes the same value off a text when more text
follows that cannot go on a number. -/
def IsLocal (read : ValueReader) : Prop :=
  ∀ {s : List Char} {value : Json} {s' rest : List Char}, EndsNumber rest →
    read s = some (value, s') → read (s ++ rest) = some (value, s' ++ rest)

/-- Reads the digits of an exponent behind its sign and completes the number. -/
def readPower? (below negative : Bool) (digits : Nat) (exponent : Int) (s : List Char) :
    Option (Json × List Char) :=
  let power := s.takeWhile Char.isDigit
  let rest := s.dropWhile Char.isDigit
  if power.isEmpty then none
  else
    let n := Number.ofDigits 0 power
    if 2147483647 < n then
      if digits ≠ 0 && !below then none else some (.real (.finite negative 0), rest)
    else
      (doubleOf? negative digits (if below then exponent - n else exponent + n)).map fun x =>
        (.real x, rest)

theorem isLocal_readPower? (below : Bool) :
    IsLocal (readPower? below negative digits exponent) := by
  intro s value s' rest ends h
  rw [readPower?] at h ⊢
  rw [takeWhile_isDigit_append ends, dropWhile_isDigit_append ends]
  dsimp only at h ⊢
  split at h
  · cases h
  · next some =>
    rw [if_neg some]
    split at h
    · next large =>
      -- an exponent beyond all bounds makes zero or an overflow, whatever the other digits are
      rw [if_pos large]
      split at h
      · cases h
      · next small =>
        rw [if_neg small]
        obtain ⟨rfl, rfl⟩ := Prod.mk.inj (Option.some.inj h)
        rfl
    · next small =>
      rw [if_neg small]
      obtain ⟨x, found, same⟩ := Option.map_eq_some_iff.1 h
      obtain ⟨rfl, rfl⟩ := Prod.mk.inj same
      rw [found, Option.map_some]

theorem isLocal_readExponent? : IsLocal (readExponent? negative digits exponent) := by
  intro s value s' rest ends h
  cases s with
  | nil => cases h
  | cons c s =>
    -- the first character is the sign, or the first digit if there is none
    by_cases plus : c = '+'
    · subst plus
      exact isLocal_readPower? false ends h
    · by_cases minus : c = '-'
      · subst minus
        exact isLocal_readPower? true ends h
      · have unsigned (t : List Char) : readExponent? negative digits exponent (c :: t) =
            readPower? false negative digits exponent (c :: t) := by
          rw [readExponent?]
          · rfl
          · exact fun _ same => plus (List.cons.inj same).1
          · exact fun _ same => minus (List.cons.inj same).1
        rw [unsigned] at h
        rw [List.cons_append, unsigned]
        exact isLocal_readPower? false ends h

/-- A number whose exponent does not follow is complete as it stands. -/
theorem readDouble?_eq (lower : s.head? ≠ some 'e') (upper : s.head? ≠ some 'E') :
    readDouble? negative digits exponent s =
      (doubleOf? negative digits exponent).map fun x => (.real x, s) := by
  rw [readDouble?]
  · rintro t rfl
    exact lower rfl
  · rintro t rfl
    exact upper rfl

/-- What does not go on a text and does not follow it does not stand behind it. -/
theorem head?_append_ne {c : Char} (ends : rest.head? ≠ some c) (other : s.head? ≠ some c) :
    (s ++ rest).head? ≠ some c := by
  cases s with
  | nil => exact ends
  | cons d s => exact other

theorem isLocal_readDouble? : IsLocal (readDouble? negative digits exponent) := by
  intro s value s' rest ends h
  by_cases lower : s.head? = some 'e'
  · obtain ⟨s, rfl⟩ := List.head?_eq_some_iff.1 lower
    exact isLocal_readExponent? ends h
  · by_cases upper : s.head? = some 'E'
    · obtain ⟨s, rfl⟩ := List.head?_eq_some_iff.1 upper
      exact isLocal_readExponent? ends h
    · -- no exponent follows, with the rest as little as without it
      have lower' : rest.head? ≠ some 'e' := fun same => (ends _ same).2.2.1 rfl
      have upper' : rest.head? ≠ some 'E' := fun same => (ends _ same).2.2.2 rfl
      rw [readDouble?_eq lower upper] at h
      rw [readDouble?_eq (head?_append_ne lower' lower) (head?_append_ne upper' upper)]
      obtain ⟨x, found, same⟩ := Option.map_eq_some_iff.1 h
      obtain ⟨rfl, rfl⟩ := Prod.mk.inj same
      rw [found, Option.map_some]

theorem isLocal_readPlaces? : IsLocal (readPlaces? negative digits exponent) := by
  intro s value s' rest ends h
  rw [readPlaces?] at h ⊢
  rw [takeDigits64_append ends]
  dsimp only at h ⊢
  rw [dropDigits_append ends]
  split at h
  · cases h
  · next some =>
    rw [if_neg some]
    exact isLocal_readDouble? ends h

/-- Goes on with a number behind the digits in front of its point. -/
def readTail? (negative : Bool) (digits dropped : Nat) (s : List Char) :
    Option (Json × List Char) :=
  match s with
  | '.' :: places => readPlaces? negative digits dropped places
  | 'e' :: _ | 'E' :: _ => readDouble? negative digits dropped s
  | _ =>
    if dropped = 0 && !negative then some (.int digits, s)
    else if dropped = 0 && digits ≠ 0 && digits ≤ 9223372036854775808 then
      some (.int (-(digits : Int)), s)
    else readDouble? negative digits dropped s

/-- A number without a point or an exponent is an integer if it is small enough. -/
theorem readTail?_eq {dropped : Nat} (point : s.head? ≠ some '.') (lower : s.head? ≠ some 'e')
    (upper : s.head? ≠ some 'E') :
    readTail? negative digits dropped s =
      if dropped = 0 && !negative then some (.int digits, s)
      else if dropped = 0 && digits ≠ 0 && digits ≤ 9223372036854775808 then
        some (.int (-(digits : Int)), s)
      else readDouble? negative digits dropped s := by
  rw [readTail?]
  · rintro t rfl
    exact point rfl
  · rintro t rfl
    exact lower rfl
  · rintro t rfl
    exact upper rfl

theorem isLocal_readTail? {dropped : Nat} : IsLocal (readTail? negative digits dropped) := by
  intro s value s' rest ends h
  -- a point, or a letter for the exponent, goes on the number in the text alone
  by_cases point : s.head? = some '.'
  · obtain ⟨s, rfl⟩ := List.head?_eq_some_iff.1 point
    exact isLocal_readPlaces? ends h
  by_cases lower : s.head? = some 'e'
  · obtain ⟨s, rfl⟩ := List.head?_eq_some_iff.1 lower
    exact isLocal_readDouble? (s := 'e' :: s) ends h
  by_cases upper : s.head? = some 'E'
  · obtain ⟨s, rfl⟩ := List.head?_eq_some_iff.1 upper
    exact isLocal_readDouble? (s := 'E' :: s) ends h
  -- nothing goes on the number, so its digits alone decide what it is
  have point' : rest.head? ≠ some '.' := fun same => (ends _ same).2.1 rfl
  have lower' : rest.head? ≠ some 'e' := fun same => (ends _ same).2.2.1 rfl
  have upper' : rest.head? ≠ some 'E' := fun same => (ends _ same).2.2.2 rfl
  rw [readTail?_eq point lower upper] at h
  rw [readTail?_eq (head?_append_ne point' point) (head?_append_ne lower' lower)
    (head?_append_ne upper' upper)]
  split at h
  · next small =>
    obtain ⟨rfl, rfl⟩ := Prod.mk.inj (Option.some.inj h)
    exact if_pos small
  · next more =>
    rw [if_neg more]
    split at h
    · next small =>
      obtain ⟨rfl, rfl⟩ := Prod.mk.inj (Option.some.inj h)
      exact if_pos small
    · next large =>
      rw [if_neg large]
      exact isLocal_readDouble? ends h

/-- **A number is read off the front of a text** as it is read alone. -/
theorem isLocal_readNumber? : IsLocal (readNumber? negative) := by
  intro s value s' rest ends h
  rw [readNumber?] at h ⊢
  -- the digits end inside of the number, so all that follows is passed on
  rw [takeDigits64_append ends]
  dsimp only at h ⊢
  rw [dropDigits_append ends]
  dsimp only at h ⊢
  split at h
  · cases h
  · next some =>
    rw [if_neg some]
    -- the check for a zero in front looks at the first character, which is one of the digits
    have nonempty : s ≠ [] := by
      rintro rfl
      exact some rfl
    have first : (s ++ rest).head? = s.head? := List.head?_append_of_ne_nil _ nonempty
    rw [first]
    split at h
    · cases h
    · next clean =>
      rw [if_neg clean]
      exact isLocal_readTail? ends h

/-! ### Integers -/

/-- More digits do not make a number smaller. -/
theorem le_ofDigits (start : Nat) (digits : List Char) : start ≤ Number.ofDigits start digits := by
  induction digits generalizing start with
  | nil => exact Nat.le_refl start
  | cons c digits ih =>
    have more : start ≤ 10 * start + Number.digitValue c := by omega
    exact more.trans (ih _)

/-- Digits that fit are all taken. -/
theorem takeDigits64_eq {digits : List Char} (all : ∀ c ∈ digits, c.isDigit) (start count : Nat)
    (fits : Number.ofDigits start digits ≤ Number.maxNat64) :
    takeDigits64 start count digits =
      (Number.ofDigits start digits, count + digits.length, []) := by
  induction digits generalizing start count with
  | nil => rfl
  | cons c digits ih =>
    -- the number in front is no greater than the whole, so no step overflows
    have next : 10 * start + Number.digitValue c ≤ Number.maxNat64 :=
      (le_ofDigits _ digits).trans fits
    rw [takeDigits64, if_pos (all c List.mem_cons_self)]
    dsimp only
    rw [if_pos next, ih (fun d mem => all d (List.mem_cons_of_mem c mem)) _ _ fits,
      List.length_cons, Nat.add_assoc, Nat.add_comm 1]
    rfl

/-- Only zero starts with a zero. -/
theorem head?_natDigits {n : Nat} (positive : 0 < n) : (Number.natDigits n).head? ≠ some '0' := by
  rw [Number.natDigits]
  induction n using Nat.base_induction 10 (by decide) with
  | single m less =>
    rw [Nat.toDigits_of_lt_base less, List.head?_cons, ne_eq, Option.some_inj,
      Nat.digitChar_eq_zero]
    exact Nat.ne_of_gt positive
  | digit m k less positive' ih =>
    -- the first digit is that of the quotient
    rw [← Nat.toDigits_append_toDigits (by decide) positive' less,
      List.head?_append_of_ne_nil _ Nat.toDigits_ne_nil]
    exact ih positive'

/-- **The digits of a number are read** as an integer, with or without a sign in front. -/
theorem readNumber?_natDigits (negative : Bool) {n : Nat} (fits : n ≤ Number.maxNat64)
    (signed : negative → 0 < n ∧ n ≤ 9223372036854775808) (ends : EndsNumber rest) :
    readNumber? negative (Number.natDigits n ++ rest) =
      some (.int (if negative then -(n : Int) else n), rest) := by
  -- all digits fit, so the number is taken as a whole
  have taken : takeDigits64 0 0 (Number.natDigits n) = (n, (Number.natDigits n).length, []) := by
    rw [takeDigits64_eq (Number.isDigit_natDigits n) 0 0 (by rwa [Number.ofDigits_natDigits]),
      Number.ofDigits_natDigits, Nat.zero_add]
  have nonempty : (Number.natDigits n).length ≠ 0 := Nat.ne_of_gt Nat.length_toDigits_pos
  -- zero is the only number with a zero in front, and it has no other digit
  have clean : ¬ ((Number.natDigits n).head? = some '0' && 1 < (Number.natDigits n).length) := by
    rcases Nat.eq_zero_or_pos n with rfl | positive
    · decide
    · rw [decide_eq_false (head?_natDigits positive)]
      exact Bool.false_ne_true
  -- alone first: what follows makes no difference
  have alone : readNumber? negative (Number.natDigits n) =
      some (.int (if negative then -(n : Int) else n), []) := by
    rw [readNumber?, taken]
    dsimp only
    rw [if_neg nonempty]
    -- nothing is left behind the digits
    have empty (c : Char) : ([] : List Char).head? ≠ some c := (Option.some_ne_none c).symm
    change (if (_ : Bool) then none else readTail? negative n 0 []) = _
    rw [if_neg clean, readTail?_eq (empty _) (empty _) (empty _)]
    cases negative with
    | false => rfl
    | true =>
      -- with a sign the number is below zero, and it fits
      obtain ⟨positive, small⟩ := signed rfl
      have inRange : (decide (0 = 0) && decide (n ≠ 0) && decide (n ≤ 9223372036854775808)) := by
        rw [decide_eq_true positive.ne', decide_eq_true small]
        rfl
      rw [if_neg (by decide), if_pos inRange]
      rfl
  exact isLocal_readNumber? ends alone

end Numbers

/-! ### Strings -/

section Strings

variable {read rest : List Char}

/-- An escape by the number of a character below the surrogates stands for that character. -/
theorem readString?_unicode (read rest : List Char) {a b c d : Char} {point : Nat}
    (four : hexFour? a b c d = some point) (low : point < 0xD800) :
    readString? read ('\\' :: 'u' :: a :: b :: c :: d :: rest) =
      readString? (Char.ofNat point :: read) rest := by
  -- both halves of surrogate pairs are above
  have outside {first last : Nat} (above : 0xD800 ≤ first) :
      ¬ (decide (first ≤ point) && decide (point < last)) := by
    intro between
    have least : first ≤ point := of_decide_eq_true (Bool.and_eq_true_iff.1 between).1
    omega
  -- an escape that follows is looked at only to find the second half of a pair
  by_cases pair : ∃ e f g h tail, rest = '\\' :: 'u' :: e :: f :: g :: h :: tail
  · obtain ⟨e, f, g, h, tail, rfl⟩ := pair
    rw [readString?, four]
    dsimp only
    rw [if_neg (outside (by decide)), if_neg (outside (by decide))]
  · rw [readString?, four]
    · dsimp only
      rw [if_neg (outside (by decide))]
    · rintro e f g h tail same
      exact pair ⟨e, f, g, h, tail, same⟩

/-- An escape by a letter stands for the character of the letter. -/
theorem readString?_escape {c meant : Char} (other : c ≠ 'u') (escape : escapeOf? c = some meant) :
    readString? read ('\\' :: c :: rest) = readString? (meant :: read) rest := by
  rw [readString?, escape]
  · exact fun _ _ _ _ _ _ _ _ _ same _ => other same
  · exact fun _ _ _ _ _ same _ => other same

/-- Any other character stands for itself. -/
theorem readString?_plain {c : Char} (mark : c ≠ '\x22') (back : c ≠ '\\')
    (printed : 32 ≤ c.toNat) :
    readString? read (c :: rest) = readString? (c :: read) rest := by
  have kept : ¬ (c.toNat < 32 || c = '\\') := by
    rw [decide_eq_false back, Bool.or_false, decide_eq_true_iff]
    exact Nat.not_lt.2 printed
  rw [readString?, if_neg mark, if_neg kept]
  · exact fun _ _ _ _ _ _ _ _ _ same _ => back same
  · exact fun _ _ _ _ _ same _ => back same
  · exact fun _ _ same _ => back same

/-- The digits of a control character are read as its number. -/
theorem hexFour?_low : ∀ n < 32, hexFour? '0' '0' (Number.hexDigit (Fin.ofNat 16 (n / 16)))
    (Number.hexDigit (Fin.ofNat 16 n)) = some n := by
  decide

/-- **A character is read** from its escape. -/
theorem readString?_escaped (c : Char) (read rest : List Char) :
    readString? read (escaped c ++ rest) = readString? (c :: read) rest := by
  by_cases lettered : c ∈ ['\x22', '\\', '\n', '\r', '\t', '\x08', '\x0c']
  · -- each of them has an escape with a letter of its own
    simp only [List.mem_cons, List.not_mem_nil, or_false] at lettered
    rcases lettered with rfl | rfl | rfl | rfl | rfl | rfl | rfl <;>
      exact readString?_escape (by decide) rfl
  · simp only [List.mem_cons, List.not_mem_nil, or_false, not_or] at lettered
    obtain ⟨mark, back, line, carriage, tab, backspace, feed⟩ := lettered
    rw [escaped, if_neg mark, if_neg back, if_neg line, if_neg carriage, if_neg tab,
      if_neg backspace, if_neg feed]
    by_cases control : c.toNat < 32
    · -- other control characters are written by their numbers
      have numbered := readString?_unicode read rest (hexFour?_low c.toNat control) (by omega)
      rw [Char.ofNat_toNat] at numbered
      rw [if_pos control]
      exact numbered
    · rw [if_neg control]
      -- every other character stands for itself
      exact readString?_plain mark back (Nat.not_lt.1 control)

/-- **A quoted text is read** as what it quotes. -/
theorem readString?_flatMap_escaped (s read rest : List Char) :
    readString? read (s.flatMap escaped ++ '\x22' :: rest) =
      some (String.ofList (read.reverse ++ s), rest) := by
  induction s generalizing read with
  | nil =>
    rw [List.append_nil]
    rfl
  | cons c s ih =>
    rw [List.flatMap_cons, List.append_assoc, readString?_escaped, ih, List.reverse_cons,
      List.append_assoc]
    rfl

end Strings

end EntitySearch.Json
