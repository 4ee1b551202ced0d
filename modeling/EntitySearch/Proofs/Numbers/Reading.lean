import EntitySearch.Attribute.Coerce
import EntitySearch.Proofs.Documents.Numerals
import EntitySearch.Proofs.Documents.Order
import EntitySearch.Proofs.Numbers.PlainText
import EntitySearch.Proofs.Query.Conditions

/-!
# Numbers, words and dates as texts

A text that is read as a number of one type is read as the same number of another one, as far as
that one has it: an integer is written as a numeral (`IsNumeral`), and the readers of integers,
doubles and decimals make the same of a numeral. The readers of other types refuse it. No text is
both a number and a boolean (`Double.read?_of_boolOfWord?`), and none is both a number and a date,
for a date goes on with a hyphen behind its first digits (`Number.behindDigits`) and a number never
does.
-/

namespace EntitySearch

/-! ### Numerals -/

namespace Number

/-- **A numeral**: digits behind an optional sign, for a number and its sign. -/
inductive IsNumeral : Bool → Nat → List Char → Prop
  | plain {digits : List Char} (some : digits ≠ []) (all : ∀ c ∈ digits, c.isDigit) :
    IsNumeral false (ofDigits 0 digits) digits
  | plus {digits : List Char} (some : digits ≠ []) (all : ∀ c ∈ digits, c.isDigit) :
    IsNumeral false (ofDigits 0 digits) ('+' :: digits)
  | minus {digits : List Char} (some : digits ≠ []) (all : ∀ c ∈ digits, c.isDigit) :
    IsNumeral true (ofDigits 0 digits) ('-' :: digits)

/-- The integer with a sign and a magnitude. -/
def withSign (negative : Bool) (n : Nat) : Int := if negative then -(n : Int) else n

section Numerals

variable {negative : Bool} {n : Nat} {s : List Char} {low high : Int}

theorem readNat?_eq_some_iff {digits : List Char} :
    readNat? digits = some n ↔
      digits ≠ [] ∧ (∀ c ∈ digits, c.isDigit) ∧ n = ofDigits 0 digits := by
  rw [readNat?]
  constructor
  · intro read
    split at read
    · cases read
    · next digit =>
      simp only [Bool.or_eq_true, List.isEmpty_iff, Bool.not_eq_true', not_or,
        Bool.not_eq_false, List.all_eq_true] at digit
      exact ⟨digit.1, digit.2, (Option.some.inj read).symm⟩
  · rintro ⟨some, all, rfl⟩
    have digit : ¬ (digits.isEmpty || !digits.all Char.isDigit) = true := by
      simpa [some] using all
    exact if_neg digit

/-- **A numeral is read as its integer**, if that is in the range. -/
theorem readInt?_numeral (numeral : IsNumeral negative n s) :
    readInt? low high s =
      (some (withSign negative n)).filter fun i => decide (low ≤ i) && decide (i ≤ high) := by
  cases numeral with
  | @plain digits some all =>
    obtain ⟨c, rest, rfl⟩ := List.exists_cons_of_ne_nil some
    -- a digit is no sign
    obtain ⟨minus, plus⟩ := Double.ne_sign_of_isDigit (all c List.mem_cons_self)
    rw [readInt?, readNat?_eq_some_iff.2 ⟨some, all, rfl⟩]
    · rfl
    · rintro _ same
      exact minus (List.cons.inj same).1
    · rintro _ same
      exact plus (List.cons.inj same).1
  | plus some all =>
    rw [readInt?, readNat?_eq_some_iff.2 ⟨some, all, rfl⟩]
    rfl
  | minus some all =>
    rw [readInt?, readNat?_eq_some_iff.2 ⟨some, all, rfl⟩]
    rfl

/-- **What is read as an integer is a numeral.** -/
theorem exists_isNumeral {i : Int} (read : readInt? low high s = some i) :
    ∃ negative n, IsNumeral negative n s ∧ i = withSign negative n ∧ low ≤ i ∧ i ≤ high := by
  -- behind the sign, or without one, nothing but digits is read
  have digits_of {digits : List Char} {m : Int}
      (found : (readNat? digits).bind (fun a => some (a : Int)) = some m) :
      digits ≠ [] ∧ (∀ c ∈ digits, c.isDigit) ∧ m = ofDigits 0 digits := by
    obtain ⟨a, digit, same⟩ := Option.bind_eq_some_iff.1 found
    obtain ⟨some, all, value⟩ := readNat?_eq_some_iff.1 digit
    exact ⟨some, all, (Option.some.inj same).symm.trans (congrArg _ value)⟩
  unfold readInt? at read
  obtain ⟨signed, range⟩ := Option.filter_eq_some_iff.1 read
  obtain ⟨above, below⟩ := Bool.and_eq_true_iff.1 range
  have above := of_decide_eq_true above
  have below := of_decide_eq_true below
  clear read range
  -- the three cases are the three ways to write a sign
  split at signed
  · obtain ⟨m, found, rfl⟩ := Option.map_eq_some_iff.1 signed
    obtain ⟨some, all, rfl⟩ := digits_of found
    exact ⟨true, _, .minus some all, rfl, above, below⟩
  · obtain ⟨m, found, rfl⟩ := Option.map_eq_some_iff.1 signed
    obtain ⟨some, all, rfl⟩ := digits_of found
    exact ⟨false, _, .plus some all, rfl, above, below⟩
  · obtain ⟨m, found, rfl⟩ := Option.map_eq_some_iff.1 signed
    obtain ⟨some, all, rfl⟩ := digits_of found
    exact ⟨false, _, .plain some all, rfl, above, below⟩

/-- The text of an integer is a numeral for it. -/
theorem isNumeral_intDigits (i : Int) : IsNumeral (decide (i < 0)) i.natAbs (intDigits i) := by
  cases i with
  | ofNat m =>
    have numeral := IsNumeral.plain (Nat.toDigits_ne_nil (n := m) (b := 10)) (isDigit_natDigits m)
    rwa [← natDigits, ofDigits_natDigits] at numeral
  | negSucc m =>
    -- the sign is written for negative numbers only
    have numeral := IsNumeral.minus (Nat.toDigits_ne_nil (n := m + 1) (b := 10))
      (isDigit_natDigits (m + 1))
    rw [← natDigits, ofDigits_natDigits] at numeral
    rw [decide_eq_true (Int.negSucc_lt_zero m)]
    exact numeral

end Numerals

end Number

section Readers

variable {negative : Bool} {n : Nat} {s : List Char}

open Number (IsNumeral ofDigits)

/-- There is no white space in the plain text of a double. -/
theorem Double.noBlank_plain (x : Double) : Text.NoBlank x.plain.toList := by
  cases x with
  | nan => exact .of_all rfl
  | infinite negative => cases negative <;> exact .of_all rfl
  | finite negative units =>
    intro c mem
    rcases mem_plain mem with digit | rfl | rfl
    · exact Text.isBlank_of_isDigit digit
    · rfl
    · rfl

/-- **A numeral is read as a double.** -/
theorem Double.read?_numeral (numeral : IsNumeral negative n s) :
    Double.read? s = some (Double.ofScientific negative n 0) := by
  have unsigned (negative : Bool) {digits : List Char} (nonempty : digits ≠ [])
      (all : ∀ c ∈ digits, c.isDigit) :
      readUnsigned? negative digits = some (ofScientific negative (ofDigits 0 digits) 0) := by
    rw [← readMagnitude?_digits all nonempty]
    obtain ⟨c, rest, rfl⟩ := List.exists_cons_of_ne_nil nonempty
    exact readUnsigned?_digit (all c List.mem_cons_self)
  cases numeral with
  | plain nonempty all =>
    obtain ⟨c, rest, rfl⟩ := List.exists_cons_of_ne_nil nonempty
    have alone : read? (Number.signed false (c :: rest)) = readMagnitude? false (c :: rest) :=
      read?_signed (all c List.mem_cons_self)
    exact alone.trans (readMagnitude?_digits all nonempty)
  | plus nonempty all => exact unsigned false nonempty all
  | minus nonempty all => exact unsigned true nonempty all

/-- **Digits that fit** are all taken into a decimal, in front of the point and behind it. -/
theorem Decimal.readDigits?_append {digits rest : List Char} (all : ∀ c ∈ digits, c.isDigit)
    {seen pointed : Bool} {mantissa scale : Nat} (fits : ofDigits mantissa digits < limit)
    (room : pointed = true → scale + digits.length ≤ maxScale) :
    readDigits? negative seen pointed mantissa scale (digits ++ rest) =
      readDigits? negative (seen || !digits.isEmpty) pointed (ofDigits mantissa digits)
        (if pointed then scale + digits.length else scale) rest := by
  induction digits generalizing seen mantissa scale with
  | nil =>
    rw [List.isEmpty_nil, Bool.not_true, Bool.or_false]
    exact congrArg (readDigits? _ _ _ _ · _) (ite_self scale).symm
  | cons c digits ih =>
    have digit := all c List.mem_cons_self
    have next : 10 * mantissa + Number.digitValue c < limit :=
      lt_of_le_of_lt (Json.le_ofDigits _ digits) fits
    have letter : (decide (c = 'e') || decide (c = 'E')) = false := by
      rw [Bool.or_eq_false_iff, decide_eq_false_iff_not, decide_eq_false_iff_not]
      constructor
      · rintro rfl
        cases digit
      · rintro rfl
        cases digit
    -- behind the point there is room for one more place
    have place : (pointed && scale == maxScale) = false := by
      cases pointed with
      | false => rfl
      | true =>
        have := room rfl
        rw [List.length_cons] at this
        simp only [Bool.true_and, beq_eq_false_iff_ne]
        omega
    have room' : pointed = true →
        (if pointed then scale + 1 else scale) + digits.length ≤ maxScale := by
      intro behind
      rw [if_pos behind, Nat.add_assoc, Nat.add_comm 1, ← List.length_cons (a := c)]
      exact room behind
    rw [List.cons_append, readDigits?, letter, place]
    simp only [Bool.false_and, Bool.false_eq_true, ↓reduceIte, digit, next]
    rw [ih (fun d mem => all d (List.mem_cons_of_mem c mem)) fits room']
    cases pointed with
    | false => simp [ofDigits]
    | true => simp [ofDigits, Nat.add_assoc, Nat.add_comm 1]

/-- Digits that fit are read as a whole number. -/
theorem Decimal.readDigits?_digits {digits : List Char} (all : ∀ c ∈ digits, c.isDigit)
    {seen : Bool} {mantissa : Nat} (some : seen = true ∨ digits ≠ [])
    (fits : ofDigits mantissa digits < limit) :
    readDigits? negative seen false mantissa 0 digits =
      .some (make negative (ofDigits mantissa digits) 0) := by
  have taken : (seen || !digits.isEmpty) = true := by simpa using some
  have read : readDigits? negative seen false mantissa 0 (digits ++ []) = _ :=
    readDigits?_append all fits nofun
  rw [List.append_nil, taken] at read
  exact read

/-- Without a sign in front a decimal is positive. -/
theorem Decimal.read?_unsigned {c : Char} {rest : List Char} (minus : c ≠ '-') (plus : c ≠ '+') :
    Decimal.read? (c :: rest) = readDigits? false false false 0 0 (c :: rest) := by
  rw [read?]
  · rintro _ same
    exact minus (List.cons.inj same).1
  · rintro _ same
    exact plus (List.cons.inj same).1

/-- A minus sign is read as the sign of the decimal. -/
theorem Decimal.read?_signed {c : Char} {rest : List Char} (digit : c.isDigit) :
    Decimal.read? (Number.signed negative (c :: rest)) =
      readDigits? negative false false 0 0 (c :: rest) := by
  cases negative with
  | true => rfl
  | false =>
    obtain ⟨minus, plus⟩ := Double.ne_sign_of_isDigit digit
    exact read?_unsigned minus plus

/-- **A numeral is read as a decimal**, if the mantissa is in the range. -/
theorem Decimal.read?_numeral (numeral : IsNumeral negative n s) (fits : n < limit) :
    Decimal.read? s = some (make negative n 0) := by
  cases numeral with
  | @plain digits nonempty all =>
    obtain ⟨c, rest, rfl⟩ := List.exists_cons_of_ne_nil nonempty
    obtain ⟨minus, plus⟩ := Double.ne_sign_of_isDigit (all c List.mem_cons_self)
    rw [read?_unsigned minus plus, readDigits?_digits all (Or.inr nonempty) fits]
  | plus nonempty all => exact readDigits?_digits all (Or.inr nonempty) fits
  | minus nonempty all => exact readDigits?_digits all (Or.inr nonempty) fits

/-! ### Texts of one integer -/

/-- **A text of an integer**: a numeral with its sign and magnitude. -/
def Number.Denotes (s : List Char) (i : Int) : Prop :=
  ∃ negative n, IsNumeral negative n s ∧ Number.withSign negative n = i

/-- Only zero has two signs. -/
theorem Number.withSign_inj {negative' : Bool} {n' : Nat}
    (same : Number.withSign negative n = Number.withSign negative' n') :
    n = n' ∧ (negative = negative' ∨ n = 0) := by
  unfold Number.withSign at same
  cases negative <;> cases negative' <;>
    simp only [Bool.false_eq_true, ↓reduceIte, reduceCtorEq, false_or, true_or, and_true]
      at same ⊢ <;>
    omega

section Denotes

variable {s' : List Char} {i low high : Int}

theorem Number.denotes_intDigits (i : Int) : Number.Denotes (Number.intDigits i) i := by
  refine ⟨_, _, Number.isNumeral_intDigits i, ?_⟩
  rw [Number.withSign]
  split
  · next negative =>
    have negative := of_decide_eq_true negative
    omega
  · next positive =>
    rw [decide_eq_true_eq] at positive
    omega

theorem Number.denotes_of_readInt? (read : Number.readInt? low high s = some i) :
    Number.Denotes s i := by
  obtain ⟨negative, n, numeral, same, -⟩ := Number.exists_isNumeral read
  exact ⟨negative, n, numeral, same.symm⟩

variable (denotes : Number.Denotes s i) (denotes' : Number.Denotes s' i)
include denotes denotes'

theorem Number.readInt?_congr : Number.readInt? low high s = Number.readInt? low high s' := by
  obtain ⟨_, _, numeral, value⟩ := denotes
  obtain ⟨_, _, numeral', value'⟩ := denotes'
  rw [Number.readInt?_numeral numeral, Number.readInt?_numeral numeral', value, value']

/-- **Texts of one integer are read as doubles of one place.** The signs of zero differ. -/
theorem Double.read?_congr :
    (Double.read? s).map Double.extent = (Double.read? s').map Double.extent := by
  obtain ⟨negative, n, numeral, value⟩ := denotes
  obtain ⟨negative', n', numeral', value'⟩ := denotes'
  rw [Double.read?_numeral numeral, Double.read?_numeral numeral']
  obtain ⟨rfl, rfl | rfl⟩ := Number.withSign_inj (value.trans value'.symm)
  · rfl
  · cases negative <;> cases negative' <;> rfl

/-- **Texts of one integer are read as one decimal**, whose zero has no sign. -/
theorem Decimal.read?_congr (fits : i.natAbs < limit) : Decimal.read? s = Decimal.read? s' := by
  obtain ⟨negative, n, numeral, value⟩ := denotes
  obtain ⟨negative', n', numeral', value'⟩ := denotes'
  -- the numerals have one magnitude, and their signs differ for zero at most
  obtain ⟨rfl, sign⟩ := Number.withSign_inj (value.trans value'.symm)
  have magnitude : n = i.natAbs := by
    rw [← value, Number.withSign]
    split <;> omega
  rw [Decimal.read?_numeral numeral (magnitude ▸ fits),
    Decimal.read?_numeral numeral' (magnitude ▸ fits)]
  rcases sign with rfl | rfl
  · rfl
  · rw [make, make, bne_self_eq_false, Bool.and_false, Bool.and_false]

end Denotes

/-- A text with a point is no integer. -/
theorem Number.readInt?_of_point {low high : Int} (point : '.' ∈ s) :
    Number.readInt? low high s = none := by
  refine Option.eq_none_iff_forall_ne_some.2 fun i read => ?_
  obtain ⟨_, _, numeral, -⟩ := Number.exists_isNumeral read
  cases numeral with
  | plain _ all => cases all '.' point
  | plus _ all => cases all '.' (by simpa using point)
  | minus _ all => cases all '.' (by simpa using point)

/-- A text with a point is read as a number, if at all. -/
theorem Double.read?_ne_nan (point : '.' ∈ s) : Double.read? s ≠ some .nan := by
  have unsigned {negative : Bool} {s : List Char} (point : '.' ∈ s) :
      readUnsigned? negative s ≠ some .nan := by
    have mem : '.' ∈ s.map Char.toLower := List.mem_map.2 ⟨'.', point, rfl⟩
    -- the word for NaN has no point in it
    have other : String.ofList (s.map Char.toLower) ≠ "nan" := by
      intro same
      have chars := congrArg String.toList same
      rw [String.toList_ofList] at chars
      rw [chars] at mem
      revert mem
      decide +kernel
    unfold readUnsigned? readMagnitude?
    dsimp only
    intro found
    split_ifs at found
    · cases found
    · obtain ⟨exponent, -, same⟩ := Option.map_eq_some_iff.1 found
      exact ofScientific_ne_nan _ _ _ same
  unfold read?
  split
  · exact unsigned (by simpa using point)
  · exact unsigned (by simpa using point)
  · exact unsigned point

end Readers

/-! ### Booleans -/

section Booleans

variable {s : List Char} {b : Bool}

/-- A boolean is a word of letters. -/
theorem isAlpha_of_boolOfWord? (read : boolOfWord? s = some b) :
    s ≠ [] ∧ ∀ c ∈ s, c.isAlpha = true := by
  unfold boolOfWord? at read
  split at read
  · next same =>
    have letters : Query.IsWord "true".toList := by decide +kernel
    exact ⟨Query.ne_nil_of_word letters same, Query.isAlpha_of_word letters same⟩
  · split at read
    · next same =>
      have letters : Query.IsWord "false".toList := by decide +kernel
      exact ⟨Query.ne_nil_of_word letters same, Query.isAlpha_of_word letters same⟩
    · cases read

/-- A boolean begins with a letter that begins no number. -/
theorem exists_head_of_boolOfWord? (read : boolOfWord? s = some b) :
    ∃ c rest, s = c :: rest ∧ c.isDigit = false ∧ c ≠ '-' ∧ c ≠ '+' ∧ c ≠ '.' ∧ c ≠ '_' := by
  obtain ⟨nonempty, letters⟩ := isAlpha_of_boolOfWord? read
  obtain ⟨c, rest, rfl⟩ := List.exists_cons_of_ne_nil nonempty
  have letter := letters c List.mem_cons_self
  refine ⟨c, rest, rfl, ?_, ?_, ?_, ?_, ?_⟩
  · rw [← Bool.not_eq_true]
    intro digit
    rw [Query.not_isAlpha_of_isDigit digit] at letter
    cases letter
  -- none of these characters is a letter
  all_goals
    rintro rfl
    cases letter

/-- **No boolean is read as a double.** -/
theorem Double.read?_of_boolOfWord? (read : boolOfWord? s = some b) : Double.read? s = none := by
  obtain ⟨c, rest, rfl, digit, minus, plus, point, -⟩ := exists_head_of_boolOfWord? read
  have word : (c :: rest).map Char.toLower = "true".toList ∨
      (c :: rest).map Char.toLower = "false".toList := by
    unfold boolOfWord? at read
    split at read
    · next same => exact Or.inl (Query.lower_eq same)
    · split at read
      · next same => exact Or.inr (Query.lower_eq same)
      · cases read
  -- a boolean starts with a letter, so it has no digits to be read
  have none : readMagnitude? false (c :: rest) = none := by
    have taken : takeDigits (c :: rest) = ([], c :: rest) := by
      rw [takeDigits, List.takeWhile_cons_of_neg (by simp [digit]),
        List.dropWhile_cons_of_neg (by simp [digit])]
    rw [readMagnitude?, taken]
    dsimp only
    split
    · next same => exact absurd (List.cons.inj same).1 point
    · rfl
  have unsigned : readUnsigned? false (c :: rest) = .none := by
    rw [readUnsigned?, none]
    rcases word with same | same <;> rw [same] <;> rfl
  exact (read?_unsigned minus plus).trans unsigned

theorem boolOfWord?_of_read? {x : Double} (read : Double.read? s = some x) :
    boolOfWord? s = none := by
  refine Option.eq_none_iff_forall_ne_some.2 fun b word => ?_
  rw [Double.read?_of_boolOfWord? word] at read
  cases read

/-- No boolean is read as a decimal. -/
theorem Decimal.read?_of_boolOfWord? (read : boolOfWord? s = some b) : Decimal.read? s = none := by
  obtain ⟨c, rest, rfl, digit, minus, plus, point, line⟩ := exists_head_of_boolOfWord? read
  rw [read?_unsigned minus plus, readDigits?]
  simp only [Bool.and_false, Bool.false_and, Bool.false_eq_true, ↓reduceIte, digit, point, line,
    decide_false]

/-- No boolean is read as an integer. -/
theorem Number.readInt?_of_boolOfWord? {low high : Int} (read : boolOfWord? s = some b) :
    Number.readInt? low high s = none := by
  rw [Option.eq_none_iff_forall_not_mem]
  intro i found
  obtain ⟨negative, n, numeral, -⟩ := exists_isNumeral found
  have double := Double.read?_of_boolOfWord? read
  rw [Double.read?_numeral numeral] at double
  cases double

end Booleans

/-! ### Dates -/

/-- **What follows the first digits** of a text behind an optional sign. -/
def Number.behindDigits : List Char → List Char
  | '-' :: s => s.dropWhile Char.isDigit
  | '+' :: s => s.dropWhile Char.isDigit
  | s => s.dropWhile Char.isDigit

theorem Number.behindDigits_unsigned {c : Char} {rest : List Char} (minus : c ≠ '-')
    (plus : c ≠ '+') : behindDigits (c :: rest) = (c :: rest).dropWhile Char.isDigit := by
  rw [behindDigits]
  · rintro _ same
    exact minus (List.cons.inj same).1
  · rintro _ same
    exact plus (List.cons.inj same).1

section Dates

open Number (behindDigits)

variable {s rest : List Char}

/-- **No number goes on with a hyphen** behind its first digits. -/
theorem Double.head?_behindDigits {x : Double} (read : Double.read? s = some x) :
    (behindDigits s).head? ≠ some '-' := by
  have unsigned {negative : Bool} {s : List Char} (read : readUnsigned? negative s = some x) :
      (s.dropWhile Char.isDigit).head? ≠ some '-' := by
    intro hyphen
    obtain ⟨rest, behind⟩ := List.head?_eq_some_iff.1 hyphen
    have mem : '-' ∈ s.map Char.toLower :=
      List.mem_map.2 ⟨'-', (List.dropWhile_sublist _).mem (behind ▸ List.mem_cons_self), rfl⟩
    -- no word for infinity or NaN has a hyphen in it
    have other (word : String) (clean : word.toList.contains '-' = false) :
        String.ofList (s.map Char.toLower) ≠ word := by
      rintro rfl
      rw [String.toList_ofList, List.contains_iff_mem.2 mem] at clean
      cases clean
    have taken : takeDigits s = (s.takeWhile Char.isDigit, '-' :: rest) := by
      rw [takeDigits, behind]
    -- a hyphen is neither a point nor does it start an exponent
    have none : readMagnitude? negative s = none := by
      have exponent : readExponent? ('-' :: rest) = .none := rfl
      rw [readMagnitude?, taken]
      dsimp only
      split
      · next same => exact absurd (List.cons.inj same).1 (by decide)
      · rw [exponent, Option.map_none, ite_self]
    rw [readUnsigned?, none] at read
    simp only [other "inf" rfl, other "infinity" rfl, other "nan" rfl, decide_false, Bool.or_self,
      Bool.false_eq_true, ↓reduceIte] at read
    cases read
  unfold read? at read
  split at read
  · exact unsigned read
  · exact unsigned read
  · next minus plus =>
    rw [behindDigits]
    · exact unsigned read
    · exact minus
    · exact plus

/-- A boolean has no hyphen behind its first digits. -/
theorem head?_behindDigits_of_boolOfWord? {b : Bool} (read : boolOfWord? s = some b) :
    (behindDigits s).head? ≠ some '-' := by
  obtain ⟨c, rest, rfl, digit, minus, plus, -⟩ := exists_head_of_boolOfWord? read
  rw [Number.behindDigits_unsigned minus plus, List.dropWhile_cons_of_neg (by simp [digit])]
  exact fun same => minus (Option.some.inj same)

namespace Calendar

theorem takeMark?_eq_some_iff {mark : Char} : takeMark? mark s = some rest ↔ s = mark :: rest := by
  cases s with
  | nil => simp [takeMark?]
  | cons c s => simp [takeMark?]

theorem takeNumber?_hyphen {most n : Nat} (taken : takeNumber? most s = some (n, '-' :: rest)) :
    s.dropWhile Char.isDigit = '-' :: rest := by
  rw [takeNumber?] at taken
  split at taken
  · cases taken
  · have behind := congrArg Prod.snd (Option.some.inj taken)
    dsimp only at behind
    -- the digits that were taken are a front of the text, and the hyphen ends them
    obtain ⟨more, front⟩ : (s.take most).takeWhile Char.isDigit <+: s :=
      (List.takeWhile_prefix _).trans (List.take_prefix _ _)
    generalize all : (s.take most).takeWhile Char.isDigit = digits at behind front
    have digit : ∀ c ∈ digits, c.isDigit := fun c mem => List.mem_takeWhile_imp (all ▸ mem)
    rw [← front, List.drop_left] at behind
    rw [← front, behind, List.dropWhile_append_of_pos digit]
    exact List.dropWhile_cons_of_neg (by decide)

theorem takeYear?_hyphen {n : Int} (taken : takeYear? s = some (n, '-' :: rest)) :
    behindDigits s = '-' :: rest := by
  unfold takeYear? at taken
  split at taken
  · obtain ⟨⟨_, _⟩, number, same⟩ := Option.map_eq_some_iff.1 taken
    obtain ⟨-, rfl⟩ := Prod.mk.inj same
    exact takeNumber?_hyphen number
  · obtain ⟨⟨_, _⟩, number, same⟩ := Option.map_eq_some_iff.1 taken
    obtain ⟨-, rfl⟩ := Prod.mk.inj same
    exact takeNumber?_hyphen number
  · next minus plus =>
    obtain ⟨⟨_, _⟩, number, same⟩ := Option.map_eq_some_iff.1 taken
    obtain ⟨-, rfl⟩ := Prod.mk.inj same
    rw [behindDigits]
    · exact takeNumber?_hyphen number
    · exact minus
    · exact plus

theorem takeExactly?_hyphen {count n : Nat}
    (taken : takeExactly? count s = some (n, '-' :: rest)) : behindDigits s = '-' :: rest := by
  unfold takeExactly? at taken
  dsimp only at taken
  split at taken
  · obtain ⟨_, read, same⟩ := Option.map_eq_some_iff.1 taken
    obtain ⟨-, behind⟩ := Prod.mk.inj same
    obtain ⟨some, digit, -⟩ := Number.readNat?_eq_some_iff.1 read
    -- the digits that are taken are all that stand in front of the hyphen
    have whole : s.take count ++ '-' :: rest = s := by rw [← behind, List.take_append_drop]
    obtain ⟨c, more, text⟩ := List.exists_cons_of_ne_nil some
    obtain ⟨minus, plus⟩ := Double.ne_sign_of_isDigit (digit c (text ▸ List.mem_cons_self))
    have passed : s.dropWhile Char.isDigit = '-' :: rest := by
      rw [← whole, List.dropWhile_append_of_pos digit]
      exact List.dropWhile_cons_of_neg (by decide)
    rw [← whole, text, List.cons_append] at passed ⊢
    exact (Number.behindDigits_unsigned minus plus).trans passed
  · cases taken

variable (tight : Text.trimStart s = s) (other : (behindDigits s).head? ≠ some '-')
include tight other

/-- A layout that begins with a year and a hyphen needs the hyphen. -/
theorem takeAll?_hyphen (parts : List LayoutPart) (m : Moment) :
    takeAll? (.year :: .mark '-' :: parts) m s = none := by
  rw [takeAll?, LayoutPart.take?, tight, Option.bind_eq_none_iff]
  rintro ⟨year, behind⟩ found
  obtain ⟨⟨n, rest⟩, taken, same⟩ := Option.map_eq_some_iff.1 found
  obtain rfl : rest = behind := (Prod.mk.inj same).2
  dsimp only
  rw [takeAll?, LayoutPart.take?, Option.bind_eq_none_iff]
  rintro _ mark
  obtain ⟨_, hyphen, -⟩ := Option.map_eq_some_iff.1 mark
  -- the hyphen that was taken would stand behind the digits
  obtain rfl := takeMark?_eq_some_iff.1 hyphen
  rw [takeYear?_hyphen taken] at other
  exact absurd rfl other

/-- **A text without a hyphen behind its first digits is no date.** -/
theorem readDate?_eq_none : readDate? s = none := by
  rw [readDate?, dateLayout, takeAll?_hyphen tight other]
  rfl

omit tight in
theorem readOffsetDateTime?_eq_none : readOffsetDateTime? s = none := by
  rw [readOffsetDateTime?, Option.bind_eq_bind, Option.bind_eq_none_iff]
  rintro ⟨year, rest⟩ taken
  have none : takeMark? '-' rest = .none := by
    refine Option.eq_none_iff_forall_ne_some.2 fun behind hyphen => ?_
    obtain rfl := takeMark?_eq_some_iff.1 hyphen
    rw [takeExactly?_hyphen taken] at other
    exact other rfl
  change (takeMark? '-' rest).bind _ = .none
  rw [none]
  rfl

/-- **A text without a hyphen behind its first digits is no date and time.** -/
theorem readDateTime?_eq_none : readDateTime? s = none := by
  have date (more : List LayoutPart) : takeAll? (dateLayout ++ more) {} s = none :=
    takeAll?_hyphen tight other _ _
  rw [readDateTime?, readOffsetDateTime?_eq_none other, readDate?_eq_none tight other]
  simp only [dateTimeLayouts, List.findSome?_cons, List.findSome?_nil, date, Option.bind_none,
    Option.map_none]

end Calendar

end Dates

end EntitySearch
