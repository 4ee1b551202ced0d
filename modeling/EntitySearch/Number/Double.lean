import EntitySearch.Number.Digits

/-!
# Double precision numbers

A finite double is a whole number of units of `2 ^ -1074` with at most 53 significant bits, and a
sign; zero has two signs. So the order of doubles is the order of integers, and every operation is
an exact calculation on units with one rounding at the end, to the nearest double and to the even
neighbour on a tie. From `2 ^ 1024` on the result is infinite.
-/

namespace EntitySearch

/-- **A double.** -/
inductive Double where
  | nan
  | infinite (negative : Bool)
  | finite (negative : Bool) (units : Nat)
  deriving DecidableEq, Repr

namespace Double

/-- The units in one. -/
def one : Nat := Nat.pow 2 1074

/-- The number of units at which the range of finite doubles ends. -/
def limit : Nat := Nat.pow 2 2098

/-- Positive zero. -/
def zero : Double := .finite false 0

/-! ### Rounding -/

/-- The quotient rounded to the nearest whole number, and to the even one on a tie. -/
def divideEven (n d : Nat) : Nat :=
  let q := n / d
  let twice := 2 * (n % d)
  if twice < d || (twice == d && q % 2 == 0) then q else q + 1

/-- How many low bits of a number of units lie outside its 53 significant bits. -/
def excessBits (units : Nat) : Nat := Nat.log2 units - 52

/-- The fraction `n / d` rounded to a whole number with at most 53 significant bits. -/
def roundUnits (n d : Nat) : Nat :=
  let step := Nat.pow 2 (excessBits (n / d))
  divideEven n (d * step) * step

/-- A signed number of units as a double; past the limit it is infinite. -/
def ofUnits (negative : Bool) (units : Nat) : Double :=
  if units < limit then .finite negative units else .infinite negative

/-- The double nearest to `± n / d`. -/
def ofRatio (negative : Bool) (n d : Nat) : Double := ofUnits negative (roundUnits (n * one) d)

/-- The double nearest to an integer. -/
def ofInt (n : Int) : Double := ofRatio (n < 0) n.natAbs 1

/-- The double nearest to `± digits * 10 ^ exponent`. Beyond the exponents at which every number is
infinite or rounds to zero the power of ten is not formed. -/
def ofScientific (negative : Bool) (digits : Nat) (exponent : Int) : Double :=
  if digits = 0 then .finite negative 0
  else
    let places : Int := (Number.natDigits digits).length + exponent
    if 400 < places then .infinite negative
    else if places < -400 then .finite negative 0
    else if 0 ≤ exponent then ofRatio negative (digits * Nat.pow 10 exponent.toNat) 1
    else ofRatio negative digits (Nat.pow 10 (-exponent).toNat)

/-! ### Arithmetic on magnitudes -/

/-- The units of the rounded sum of two magnitudes. -/
def addUnits (a b : Nat) : Nat := roundUnits (a + b) 1

/-- The units of the rounded product of two magnitudes. -/
def mulUnits (a b : Nat) : Nat := roundUnits (a * b) one

/-- The units of the rounded quotient of two magnitudes. -/
def divUnits (a b : Nat) : Nat := roundUnits (a * one) b

/-- The units of the nearest whole number, a half going up. -/
def wholeUnits (a : Nat) : Nat := (2 * a + one) / (2 * one) * one

/-! ### Order -/

/-- The signed number of units of a finite double. -/
def signedUnits (negative : Bool) (units : Nat) : Int := if negative then -(units : Int) else units

/-- The order of two doubles by exact value; a NaN has none. -/
def order : Double → Double → Option Ordering
  | .nan, _ => none
  | _, .nan => none
  | .infinite a, .infinite b => some (compare b.toNat a.toNat)
  | .infinite a, .finite _ _ => some (if a then .lt else .gt)
  | .finite _ _, .infinite b => some (if b then .gt else .lt)
  | .finite a m, .finite b n => some (compare (signedUnits a m) (signedUnits b n))

/-- The order of an integer and a double by exact value; a NaN has none. -/
def orderInt (n : Int) : Double → Option Ordering
  | .nan => none
  | .infinite b => some (if b then .gt else .lt)
  | .finite b units => some (compare (n * one) (signedUnits b units))

/-! ### Reading -/

/-- Splits off the digits at the start of a text. -/
def takeDigits (s : List Char) : List Char × List Char :=
  (s.takeWhile Char.isDigit, s.dropWhile Char.isDigit)

/-- Reads an exponent part `e`, an optional sign and digits; an empty rest has exponent zero. -/
def readExponent? : List Char → Option Int
  | [] => some 0
  | e :: rest =>
    if e = 'e' || e = 'E' then
      match rest with
      | '-' :: digits => (Number.readNat? digits).map fun n => -(n : Int)
      | '+' :: digits => (Number.readNat? digits).map fun n => (n : Int)
      | digits => (Number.readNat? digits).map fun n => (n : Int)
    else none

/-- Reads an unsigned number: digits with at most one point, at least one digit, and an optional
exponent. -/
def readMagnitude? (negative : Bool) (s : List Char) : Option Double :=
  let (whole, rest) := takeDigits s
  let (fraction, rest) :=
    match rest with
    | '.' :: after => takeDigits after
    | _ => ([], rest)
  if whole.isEmpty && fraction.isEmpty then none
  else
    (readExponent? rest).map fun exponent =>
      ofScientific negative (Number.ofDigits 0 (whole ++ fraction)) (exponent - fraction.length)

/-- Reads an unsigned number or one of the words `inf`, `infinity` and `nan` in any case. -/
def readUnsigned? (negative : Bool) (s : List Char) : Option Double :=
  let word := String.ofList (s.map Char.toLower)
  if word = "inf" || word = "infinity" then some (.infinite negative)
  else if word = "nan" then some .nan
  else readMagnitude? negative s

/-- **Reading a double**: an optional sign, then a decimal number or a word for a value that is not
finite. The result is the double nearest to the number written. -/
def read? : List Char → Option Double
  | '-' :: rest => readUnsigned? true rest
  | '+' :: rest => readUnsigned? false rest
  | s => readUnsigned? false s

end Double

end EntitySearch
