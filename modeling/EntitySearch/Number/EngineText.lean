import EntitySearch.Number.Extended
import EntitySearch.Number.Shortest

/-!
# Text and numbers in the database engine

The engine reads a decimal numeral into a 64-bit significand and a power of ten, and multiplies
them out in extended precision. It writes a double with fifteen digits that it takes from a whole
number of eighteen or nineteen digits, again by steps in extended precision. So a numeral can be
read as a neighbour of the nearest double, and a digit can be rounded up from just below a half.
-/

namespace EntitySearch

/-! ### Reading -/

/-- **A decimal numeral** as it is written: sign, digits around the point, and the power of ten. -/
structure Numeral where
  negative : Bool
  whole : List Char
  places : List Char
  exponent : Int

namespace Numeral

/-- The bound from which on a significand takes no further digit. -/
def roomy : Nat := (Number.maxNat64 - 9) / 10

/-- The greatest power of ten that is told apart from greater ones. -/
def maxPower : Nat := 10000

/-- A power of ten from its digits. -/
def power (digits : List Char) : Nat :=
  digits.foldl (fun n c => if n < maxPower then 10 * n + Number.digitValue c else maxPower) 0

/-- The power of ten that follows the digits of a numeral. -/
def exponentOf : List Char → Int
  | _ :: '-' :: digits => -(power digits : Int)
  | _ :: '+' :: digits => power digits
  | _ :: digits => power digits
  | [] => 0

/-- **The numeral of a text** that is one. -/
def ofText (s : List Char) : Numeral :=
  let (negative, s) :=
    match s with
    | '-' :: rest => (true, rest)
    | _ => (false, s)
  let (whole, s) := Double.takeDigits s
  let (places, s) :=
    match s with
    | '.' :: rest => Double.takeDigits rest
    | _ => ([], s)
  ⟨negative, whole, places, exponentOf s⟩

/-- Takes a digit in front of the point into a significand; one for which there is no room counts
as a zero. -/
def takeWhole (d : Double.Decimals) (c : Char) : Double.Decimals :=
  if d.digits < roomy then ⟨10 * d.digits + Number.digitValue c, d.exponent⟩
  else ⟨d.digits, d.exponent + 1⟩

/-- Takes a digit behind the point into a significand, if there is room for it. -/
def takePlace (d : Double.Decimals) (c : Char) : Double.Decimals :=
  if d.digits < roomy then ⟨10 * d.digits + Number.digitValue c, d.exponent - 1⟩ else d

/-- Moves a positive power of ten into a significand while there is room. -/
def filled : Nat → Double.Decimals → Double.Decimals
  | 0, d => d
  | fuel + 1, d =>
    if 0 < d.exponent && d.digits < Number.maxNat64 / 10 then
      filled fuel ⟨10 * d.digits, d.exponent - 1⟩
    else d

/-- Moves zeros at the end of a significand into a negative power of ten. -/
def trimmed : Nat → Double.Decimals → Double.Decimals
  | 0, d => d
  | fuel + 1, d =>
    if d.exponent < 0 && d.digits % 10 == 0 then trimmed fuel ⟨d.digits / 10, d.exponent + 1⟩ else d

/-- The significand and the power of ten of a numeral. -/
def decimals (numeral : Numeral) : Double.Decimals :=
  let taken := numeral.places.foldl takePlace (numeral.whole.foldl takeWhole ⟨0, 0⟩)
  trimmed 20 (filled 20 ⟨taken.digits, taken.exponent + numeral.exponent⟩)

/-- **The double that the engine reads** for a numeral. -/
def toDouble (numeral : Numeral) : Double :=
  let d := numeral.decimals
  if d.digits = 0 then .finite numeral.negative 0
  else if d.exponent = 0 then Double.ofRatio numeral.negative d.digits 1
  else ((Extended.ofNat d.digits).scaled d.exponent).toDouble numeral.negative

end Numeral

namespace Double

/-- The double that the engine reads in the JSON text of a double. -/
def reread (x : Double) : Double := (Numeral.ofText x.json.toList).toDouble

/-! ### Writing -/

/-- A positive number of units rounded to fifteen significant digits: the sixteenth digit decides.
-/
def fifteen (units : Nat) : Decimals :=
  let normal := (Extended.ofUnits units).normalised
  let whole := normal.number.floor
  let dropped := (Number.natDigits whole).length - 16
  let rounded : Decimals := ⟨(whole / Nat.pow 10 dropped + 5) / 10, normal.power + dropped + 1⟩
  rounded.stripped 16

/-- **Engine text** of a double: fifteen significant digits without trailing zeros but with at least
one place after the point, positional for exponents from -4 to 14 and otherwise with an exponent of
at least two digits. -/
def engineText : Double → String
  | .nan => ""
  | .infinite negative => if negative then "-Inf" else "Inf"
  | .finite negative units =>
    if units = 0 then "0.0"
    else
      let (digits, point) := (fifteen units).layout
      let power := point - 1
      let text :=
        if -4 ≤ power && power < 15 then
          if digits.length ≤ point then positional digits point ++ ".0".toList
          else positional digits point
        else
          let mantissa := match digits with
            | [single] => [single, '.', '0']
            | several => pointed several
          let sign := if power < 0 then '-' else '+'
          mantissa ++ 'e' :: sign :: Number.padded 2 power.natAbs
      String.ofList (Number.signed negative text)

end Double

end EntitySearch
