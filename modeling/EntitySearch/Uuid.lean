import EntitySearch.Number.Digits
import EntitySearch.Text.Ascii

/-!
# UUIDs

A UUID is 32 hexadecimal digits. It is written in lower case in groups of 8, 4, 4, 4 and 12 digits,
and read in that form, without hyphens, in braces, or as a URN, with digits in any case.
-/

namespace EntitySearch

/-- **A UUID.** -/
structure Uuid where
  digits : List (Fin 16)
  complete : digits.length = 32
  deriving DecidableEq

namespace Uuid

/-- Reads 32 hexadecimal digits. -/
def ofDigits? (s : List Char) : Option Uuid :=
  match s.mapM Number.hexValue? with
  | some digits => if h : digits.length = 32 then some ⟨digits, h⟩ else none
  | none => none

/-- Reads groups of 8, 4, 4, 4 and 12 digits with hyphens between them. -/
def ofHyphenated? (s : List Char) : Option Uuid :=
  match Text.splitAt '-' s with
  | [a, b, c, d, e] =>
    if a.length = 8 && b.length = 4 && c.length = 4 && d.length = 4 && e.length = 12 then
      ofDigits? (a ++ b ++ c ++ d ++ e)
    else none
  | _ => none

/-- What stands between braces. -/
def inBraces? : List Char → Option (List Char)
  | c :: rest => if c = '\x7b' then Text.before? '\x7d' rest else none
  | [] => none

/-- What follows the name of the URN namespace. -/
def afterUrn? (s : List Char) : Option (List Char) :=
  match Text.after? "urn:uuid:".toList s with
  | some rest => some rest
  | none => Text.after? "URN:UUID:".toList s

/-- **Reading a UUID.** -/
def read? (s : List Char) : Option Uuid :=
  match ofDigits? s with
  | some id => some id
  | none =>
    match inBraces? s, afterUrn? s with
    | some inner, _ => ofHyphenated? inner
    | none, some rest => ofHyphenated? rest
    | none, none => ofHyphenated? s

/-- The characters of a UUID, in lower case with hyphens. -/
def chars (id : Uuid) : List Char :=
  let hex := id.digits.map Number.hexDigit
  hex.take 8 ++ '-' :: ((hex.drop 8).take 4 ++ '-' :: ((hex.drop 12).take 4 ++ '-' ::
    ((hex.drop 16).take 4 ++ '-' :: hex.drop 20)))

/-- **The text of a UUID.** -/
def text (id : Uuid) : String := String.ofList id.chars

/-- Whether a text is a UUID of version 4 in the hyphenated form, in either case. -/
def isRandomText (s : List Char) : Bool :=
  match ofHyphenated? s with
  | some id => id.digits[12]? == some 4 && (id.digits[16]?.any fun d => 8 ≤ d.val && d.val ≤ 11)
  | none => false

/-- The hexadecimal digits of a number, filled with zeros to `count` places. -/
def numberDigits : Nat → Nat → List (Fin 16)
  | 0, _ => []
  | count + 1, n => numberDigits count (n / 16) ++ [Fin.ofNat 16 n]

theorem length_numberDigits (count n : Nat) : (numberDigits count n).length = count := by
  induction count generalizing n with
  | zero => rfl
  | succ count ih => simp [numberDigits, ih]

/-- The UUID of version 4 whose last twelve digits are a number: a source of distinct ids. -/
def numbered (n : Nat) : Uuid :=
  ⟨[15, 15, 15, 15, 15, 15, 15, 15, 15, 15, 15, 15, 4, 15, 15, 15, 11, 15, 15, 15] ++
      numberDigits 12 n, by simp [length_numberDigits]⟩

end Uuid

end EntitySearch
