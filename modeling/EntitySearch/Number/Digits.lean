/-!
# Decimal digits

Whole numbers written in decimal: reading a run of ASCII digits, with or without a sign and a
range, and writing digits, padded to a width where a format asks for it.
-/

namespace EntitySearch.Number

/-- The value of an ASCII digit. -/
def digitValue (c : Char) : Nat := c.toNat - 48

/-- The number that a run of digits stands for, read from the left with `start` in front. -/
def ofDigits (start : Nat) (digits : List Char) : Nat :=
  digits.foldl (fun n c => 10 * n + digitValue c) start

/-- Reads a text of one or more ASCII digits. -/
def readNat? (s : List Char) : Option Nat :=
  if s.isEmpty || !s.all Char.isDigit then none else some (ofDigits 0 s)

/-- Reads an optional sign and one or more ASCII digits, in the range from `low` to `high`. -/
def readInt? (low high : Int) (s : List Char) : Option Int :=
  let read : Option Int :=
    match s with
    | '-' :: digits => (readNat? digits).map fun n => -(n : Int)
    | '+' :: digits => (readNat? digits).map fun n => (n : Int)
    | digits => (readNat? digits).map fun n => (n : Int)
  read.filter fun n => low ≤ n && n ≤ high

/-- The decimal digits of a number, without leading zeros. -/
def natDigits (n : Nat) : List Char := Nat.toDigits 10 n

/-- Digits padded with zeros in front to at least `width` places. -/
def padded (width n : Nat) : List Char :=
  let digits := natDigits n
  List.replicate (width - digits.length) '0' ++ digits

/-- A minus sign in front of a negative number. -/
def signed (negative : Bool) (digits : List Char) : List Char :=
  if negative then '-' :: digits else digits

/-- The decimal text of an integer, with a sign only when it is negative. -/
def intDigits : Int → List Char
  | .ofNat n => natDigits n
  | .negSucc n => '-' :: natDigits (n + 1)

theorem isDigit_natDigits (n : Nat) : ∀ c ∈ natDigits n, c.isDigit := fun _ mem =>
  Nat.isDigit_of_mem_toDigits (by decide) (by decide) mem

/-- The digits of a number stand for it. -/
theorem ofDigits_natDigits (n : Nat) : ofDigits 0 (natDigits n) = n :=
  Nat.ofDigitChars_ten_toDigits

theorem readNat?_natDigits (n : Nat) : readNat? (natDigits n) = some n := by
  have nonempty : (natDigits n).isEmpty = false := by
    rw [natDigits, List.isEmpty_eq_false_iff]
    exact Nat.toDigits_ne_nil
  have digits : (natDigits n).all Char.isDigit = true := List.all_eq_true.2 (isDigit_natDigits n)
  rw [readNat?, nonempty, digits, ofDigits_natDigits]
  rfl

/-- **The text of an integer is read as the integer**, in every range that holds it. -/
theorem readInt?_intDigits {low high n : Int} (above : low ≤ n) (below : n ≤ high) :
    readInt? low high (intDigits n) = some n := by
  have inRange : (decide (low ≤ n) && decide (n ≤ high)) = true := by
    rw [decide_eq_true above, decide_eq_true below]
    rfl
  cases n with
  | negSucc n =>
    rw [intDigits, readInt?, readNat?_natDigits]
    exact if_pos inRange
  | ofNat n =>
    -- the first digit is no sign
    obtain ⟨c, digits, found⟩ := List.exists_cons_of_ne_nil (Nat.toDigits_ne_nil (n := n) (b := 10))
    have found : natDigits n = c :: digits := found
    have digit : c.isDigit := isDigit_natDigits n c (found ▸ List.mem_cons_self)
    have read : readNat? (c :: digits) = some n := found ▸ readNat?_natDigits n
    have unsigned : c ≠ '-' ∧ c ≠ '+' := by
      constructor
      · rintro rfl
        cases digit
      · rintro rfl
        cases digit
    rw [intDigits, found, readInt?]
    · rw [read]
      exact if_pos inRange
    · exact fun _ same => unsigned.1 (List.cons.inj same).1
    · exact fun _ same => unsigned.2 (List.cons.inj same).1

/-- The decimal text of an integer, as a string. -/
def intText (n : Int) : String := String.ofList (intDigits n)

/-- The decimal text of a natural number, as a string. -/
def natText (n : Nat) : String := String.ofList (natDigits n)

/-! ### Hexadecimal digits -/

/-- Sixteen is not zero, so every number has a last hexadecimal digit. -/
instance neZero_sixteen : @NeZero Nat Zero.ofOfNat0 16 := ⟨by decide⟩

/-- The value of a hexadecimal digit, in either case. -/
def hexValue? (c : Char) : Option (Fin 16) :=
  if c.isDigit then some (Fin.ofNat 16 (c.toNat - 48))
  else if 'a' ≤ c && c ≤ 'f' then some (Fin.ofNat 16 (c.toNat - 87))
  else if 'A' ≤ c && c ≤ 'F' then some (Fin.ofNat 16 (c.toNat - 55))
  else none

/-- The lower-case hexadecimal digit of a value. -/
def hexDigit (n : Fin 16) : Char :=
  if n.val < 10 then Char.ofNat (n.val + 48) else Char.ofNat (n.val + 87)

/-! ### Ranges -/

/-- The least 32-bit integer. -/
def minInt32 : Int := -2147483648
/-- The greatest 32-bit integer. -/
def maxInt32 : Int := 2147483647
/-- The least 64-bit integer. -/
def minInt64 : Int := -9223372036854775808
/-- The greatest 64-bit integer. -/
def maxInt64 : Int := 9223372036854775807
/-- The greatest unsigned 32-bit integer. -/
def maxNat32 : Nat := 4294967295
/-- The greatest unsigned 64-bit integer. -/
def maxNat64 : Nat := 18446744073709551615

/-- Whether an integer is a 64-bit integer. -/
def isInt64 (n : Int) : Bool := minInt64 ≤ n && n ≤ maxInt64

theorem isInt64_iff {n : Int} : isInt64 n = true ↔ minInt64 ≤ n ∧ n ≤ maxInt64 := by
  simp [isInt64]

end EntitySearch.Number
