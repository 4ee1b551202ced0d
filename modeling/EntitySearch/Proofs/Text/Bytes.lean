import EntitySearch.Proofs.Comparing
import Mathlib.Data.String.Basic
import Mathlib.Tactic.IntervalCases
import Mathlib.Tactic.SplitIfs

/-!
# Texts as bytes

Texts are compared by their characters, and their bytes in UTF-8 compare the same way
(`Text.compare_bytes`). The reason is in how a character is written. Its first byte tells how many
bytes come behind it (`Text.exists_lead`), and the more they are, the higher is the first byte and
the later are the characters (`Text.lead_lt`, `Text.firstPoint_mono`). In characters with equally
many bytes behind the first one, the bytes are the digits of the code point to base 64, and those
compare as the code point does (`Text.compare_lastBytes`).
-/

namespace EntitySearch.Text

/-! ### Characters as code points -/

/-- The code points of characters. -/
def points (s : List Char) : List Nat := s.map Char.toNat

@[simp] theorem points_nil : points [] = [] := rfl

@[simp] theorem points_cons (c : Char) (s : List Char) : points (c :: s) = c.toNat :: points s :=
  rfl

@[simp] theorem points_append (s t : List Char) : points (s ++ t) = points s ++ points t :=
  List.map_append

@[simp] theorem length_points (s : List Char) : (points s).length = s.length := List.length_map _

/-- Lists of characters compare as their code points do. -/
theorem compare_points (s t : List Char) :
    compare (points s) (points t) = compareOfLessAndEq s t := by
  induction s generalizing t with
  | nil => cases t <;> rfl
  | cons c s ih =>
    cases t with
    | nil => rfl
    | cons d t =>
      rw [points_cons, points_cons, List.compare_cons_cons, ih, compareOfLessAndEq,
        compareOfLessAndEq]
      simp only [List.cons_lt_cons_iff, List.cons.injEq, Char.lt_def, UInt32.lt_iff_toNat_lt,
        Char.toNat_val, ← Char.toNat_inj]
      -- the first characters decide, unless they are the same
      rcases Nat.lt_trichotomy c.toNat d.toNat with less | same | greater
      · simp [Nat.compare_eq_lt.2 less, less]
      · simp [same]
      · simp [Nat.compare_eq_gt.2 greater, Nat.not_lt_of_gt greater, Nat.ne_of_gt greater]

/-- A text compares as its code points do. -/
theorem compare_strings (s t : String) :
    compare (points s.toList) (points t.toList) = compare s t := by
  rw [compare_points]
  change _ = compareOfLessAndEq s t
  simp only [compareOfLessAndEq, String.lt_iff_toList_lt, String.toList_inj]

/-! ### Characters as bytes -/

/-- **The bytes of a text** in UTF-8. -/
def bytes (s : String) : List UInt8 := s.toByteArray.data.toList

theorem bytes_eq_flatMap (s : String) : bytes s = s.toList.flatMap String.utf8EncodeChar := by
  rw [bytes, ← String.utf8Encode_toList, List.utf8Encode, List.data_toByteArray]

/-- The mark in the first byte of a character with so many bytes behind it. -/
def leadMark : Nat → Nat
  | 0 => 0
  | 1 => 0xC0
  | 2 => 0xE0
  | 3 => 0xF0
  | _ => 0x100

/-- The first code point that takes so many bytes behind the first one. -/
def firstPoint : Nat → Nat
  | 0 => 0
  | 1 => 0x80
  | 2 => 0x800
  | 3 => 0x10000
  | _ => 0x110000

theorem leadMark_mono : Monotone leadMark := by
  refine monotone_nat_of_le_succ fun k => ?_
  match k with
  | 0 | 1 | 2 | 3 => decide
  | _ + 4 => exact Nat.le_refl _

theorem firstPoint_mono : Monotone firstPoint := by
  refine monotone_nat_of_le_succ fun k => ?_
  match k with
  | 0 | 1 | 2 | 3 => decide
  | _ + 4 => exact Nat.le_refl _

/-- **The last bytes of a code point**, six bits in each of them. -/
def lastBytes : Nat → Nat → List UInt8
  | 0, _ => []
  | k + 1, point => lastBytes k (point / 64) ++ [UInt8.ofNat (point % 64 + 0x80)]

theorem length_lastBytes (k point : Nat) : (lastBytes k point).length = k := by
  induction k generalizing point with
  | zero => rfl
  | succ k ih => rw [lastBytes, List.length_append, ih, List.length_singleton]

/-- Numbers that fit into a byte compare as bytes do. -/
theorem compare_ofNat {m n : Nat} (fits : m < 256) (fits' : n < 256) :
    compare (UInt8.ofNat m) (UInt8.ofNat n) = compare m n := by
  rw [UInt8.compare_eq_toNat_compare_toNat, UInt8.toNat_ofNat_of_lt' fits,
    UInt8.toNat_ofNat_of_lt' fits']

/-- The last bytes of code points compare as what the code points have in them. -/
theorem compare_lastBytes (k m n : Nat) :
    compare (lastBytes k m) (lastBytes k n) = compare (m % 64 ^ k) (n % 64 ^ k) := by
  induction k generalizing m n with
  | zero => rw [Nat.pow_zero, Nat.mod_one, Nat.mod_one]; rfl
  | succ k ih =>
    -- the last byte has the last six bits, and the others have the bits in front of them
    have front (n : Nat) : n % 64 ^ (k + 1) / 64 = n / 64 % 64 ^ k := by
      rw [Nat.pow_succ, Nat.mul_comm, Nat.mod_mul_right_div_self]
    have last (n : Nat) : n % 64 ^ (k + 1) % 64 = n % 64 :=
      Nat.mod_mod_of_dvd n (Dvd.intro_left _ rfl)
    have lastByte : compare [UInt8.ofNat (m % 64 + 0x80)] [UInt8.ofNat (n % 64 + 0x80)] =
        compare (m % 64) (n % 64) := by
      rw [List.compare_cons_cons, List.compare_nil_nil, Ordering.then_eq,
        compare_ofNat (by omega) (by omega), compare_add]
    calc
      compare (lastBytes (k + 1) m) (lastBytes (k + 1) n) =
          (compare (m / 64 % 64 ^ k) (n / 64 % 64 ^ k)).then (compare (m % 64) (n % 64)) := by
        rw [lastBytes, lastBytes, compare_append (by rw [length_lastBytes, length_lastBytes]), ih,
          lastByte]
      _ = compare (m % 64 ^ (k + 1)) (n % 64 ^ (k + 1)) := by
        rw [compare_div_mod (m % 64 ^ (k + 1)) _ 64, front, front, last, last]

/-- **How a character is written**: a first byte with a mark for the number of those behind it, and
that many. -/
theorem exists_lead (c : Char) : ∃ k < 4,
    String.utf8EncodeChar c =
        UInt8.ofNat (c.toNat / 64 ^ k + leadMark k) :: lastBytes k c.toNat ∧
      firstPoint k ≤ c.toNat ∧ c.toNat < firstPoint (k + 1) := by
  -- surrogates left out, a code point has 21 bits at most
  have small : c.toNat < 0x110000 := by
    rcases c.valid with low | ⟨_, high⟩
    · have low : c.toNat < 0xd800 := low
      omega
    · exact high
  unfold String.utf8EncodeChar
  change ∃ k < 4, ite (c.toNat ≤ _) _ (ite (c.toNat ≤ _) _ (ite (c.toNat ≤ _) _ _)) = _ ∧ _
  split_ifs with one two three
  · refine ⟨0, by decide, ?_, Nat.zero_le _, Nat.lt_succ_of_le one⟩
    simp [lastBytes, leadMark]
  · refine ⟨1, by decide, ?_, Nat.lt_of_not_le one, Nat.lt_succ_of_le two⟩
    have lead : c.toNat / 64 % 32 = c.toNat / 64 := Nat.mod_eq_of_lt (by omega)
    simp [lastBytes, leadMark, lead]
  · refine ⟨2, by decide, ?_, Nat.lt_of_not_le two, Nat.lt_succ_of_le three⟩
    have lead : c.toNat / 4096 % 16 = c.toNat / 4096 := Nat.mod_eq_of_lt (by omega)
    simp [lastBytes, leadMark, lead]
  · refine ⟨3, by decide, ?_, Nat.lt_of_not_le three, small⟩
    have lead : c.toNat / 262144 % 8 = c.toNat / 262144 := Nat.mod_eq_of_lt (by omega)
    simp [lastBytes, leadMark, lead, Nat.div_div_eq_div_mul]

/-- The first byte stays below the mark for one byte more. -/
theorem lead_lt {k point : Nat} (last : point < firstPoint (k + 1)) (few : k < 4) :
    point / 64 ^ k + leadMark k < leadMark (k + 1) := by
  interval_cases k <;> simp only [firstPoint, leadMark] at * <;> omega

/-- **A character compares as its bytes do**, whatever comes behind it. -/
theorem compare_utf8EncodeChar (c d : Char) (s t : List UInt8) :
    compare (String.utf8EncodeChar c ++ s) (String.utf8EncodeChar d ++ t) =
      (compare c.toNat d.toNat).then (compare s t) := by
  obtain ⟨j, few, encoded, first, last⟩ := exists_lead c
  obtain ⟨k, few', encoded', first', last'⟩ := exists_lead d
  have below := lead_lt last few
  have below' := lead_lt last' few'
  have fits : leadMark (j + 1) ≤ 256 := leadMark_mono few
  have fits' : leadMark (k + 1) ≤ 256 := leadMark_mono few'
  rw [encoded, encoded', List.cons_append, List.cons_append, List.compare_cons_cons,
    compare_ofNat (below.trans_le fits) (below'.trans_le fits')]
  -- more bytes mean a greater code point and a greater first byte
  rcases Nat.lt_trichotomy j k with less | rfl | greater
  · have later : c.toNat < d.toNat := last.trans_le ((firstPoint_mono less).trans first')
    have marks : leadMark (j + 1) ≤ leadMark k := leadMark_mono less
    rw [Nat.compare_eq_lt.2 later,
      Nat.compare_eq_lt.2 (below.trans_le (marks.trans (Nat.le_add_left _ _)))]
    rfl
  · rw [compare_add, compare_append (by rw [length_lastBytes, length_lastBytes]),
      compare_lastBytes, ← Ordering.then_assoc, ← compare_div_mod]
  · have earlier : d.toNat < c.toNat := last'.trans_le ((firstPoint_mono greater).trans first)
    have marks : leadMark (k + 1) ≤ leadMark j := leadMark_mono greater
    rw [Nat.compare_eq_gt.2 earlier,
      Nat.compare_eq_gt.2 (below'.trans_le (marks.trans (Nat.le_add_left _ _)))]
    rfl

/-- Lists of characters compare as their bytes do. -/
theorem compare_flatMap_utf8EncodeChar (s t : List Char) :
    compare (s.flatMap String.utf8EncodeChar) (t.flatMap String.utf8EncodeChar) =
      compare (points s) (points t) := by
  induction s generalizing t with
  | nil =>
    cases t with
    | nil => rfl
    | cons d t =>
      -- a character has a byte at least
      obtain ⟨k, -, encoded, -⟩ := exists_lead d
      rw [List.flatMap_cons, encoded]
      rfl
  | cons c s ih =>
    cases t with
    | nil =>
      obtain ⟨k, -, encoded, -⟩ := exists_lead c
      rw [List.flatMap_cons, encoded]
      rfl
    | cons d t =>
      rw [List.flatMap_cons, List.flatMap_cons, compare_utf8EncodeChar, ih, points_cons,
        points_cons, List.compare_cons_cons]

/-- **Texts compare as their bytes do.** -/
theorem compare_bytes (s t : String) : compare (bytes s) (bytes t) = compare s t := by
  rw [bytes_eq_flatMap, bytes_eq_flatMap, compare_flatMap_utf8EncodeChar, compare_strings]

end EntitySearch.Text
