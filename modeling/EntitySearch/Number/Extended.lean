import EntitySearch.Number.Double

/-!
# Extended precision

The database engine converts between doubles and decimal text with numbers of 64 significant bits.
It multiplies step by step with powers of ten, and every product is rounded to the nearest number
of that precision, so a conversion can end beside the nearest double or the nearest decimal.
Magnitudes only: the sign is kept apart.
-/

namespace EntitySearch

/-- **A magnitude of extended precision**, `mantissa * 2 ^ exponent`. -/
structure Extended where
  mantissa : Nat
  exponent : Int
  deriving DecidableEq, Repr

namespace Extended

/-- The number nearest to `n / d * 2 ^ exponent`, an even one on a tie. -/
def round (n d : Nat) (exponent : Int) : Extended :=
  let excess := Nat.log2 (n / d) - 63
  ⟨Double.divideEven n (d * Nat.pow 2 excess), exponent + excess⟩

/-- A whole number. -/
def ofNat (n : Nat) : Extended := round n 1 0

/-- A number of units of doubles. -/
def ofUnits (units : Nat) : Extended := round units 1 (-1074)

/-- The number nearest to `10 ^ power`. -/
def tenTo (power : Int) : Extended :=
  if 0 ≤ power then round (Nat.pow 10 power.toNat) 1 0
  else
    let d := Nat.pow 10 (-power).toNat
    let shift := Nat.log2 d + 65
    round (Nat.pow 2 shift) d (-shift)

/-- The rounded product. -/
def mul (a b : Extended) : Extended := round (a.mantissa * b.mantissa) 1 (a.exponent + b.exponent)

/-- Whether a number is less than another one. -/
def isLess (a b : Extended) : Bool :=
  a.mantissa * Nat.pow 2 (a.exponent - b.exponent).toNat <
    b.mantissa * Nat.pow 2 (b.exponent - a.exponent).toNat

/-- The whole number below. -/
def floor (a : Extended) : Nat :=
  if 0 ≤ a.exponent then a.mantissa * Nat.pow 2 a.exponent.toNat
  else a.mantissa / Nat.pow 2 (-a.exponent).toNat

/-- The greatest finite double. -/
def greatest : Extended := ⟨Nat.pow 2 53 - 1, 971⟩

/-- The double nearest to a number with a sign. Whatever is greater than the greatest finite double
is infinite. -/
def toDouble (negative : Bool) (a : Extended) : Double :=
  if greatest.isLess a then .infinite negative
  else
    let shift := a.exponent + 1074
    .ofUnits negative
      (if 0 ≤ shift then Double.roundUnits (a.mantissa * Nat.pow 2 shift.toNat) 1
       else Double.roundUnits a.mantissa (Nat.pow 2 (-shift).toNat))

/-! ### Steps of powers of ten -/

/-- A number multiplied several times with the same factor. -/
def mulTimes (factor : Extended) : Nat → Extended → Extended
  | 0, a => a
  | count + 1, a => mulTimes factor count (a.mul factor)

/-- A number multiplied with a power of ten, in steps of a hundred, ten and one places. -/
def scaled (a : Extended) (power : Int) : Extended :=
  let sign : Int := if 0 ≤ power then 1 else -1
  let places := power.natAbs
  let hundreds := mulTimes (tenTo (sign * 100)) (places / 100) a
  let tens := mulTimes (tenTo (sign * 10)) (places % 100 / 10) hundreds
  mulTimes (tenTo sign) (places % 10) tens

/-- A number together with the power of ten that it has to be multiplied with. -/
structure Shifted where
  number : Extended
  power : Int

/-- Multiplies with `10 ^ -step` as long as a number is not less than `10 ^ bound`. -/
def lowered (bound step : Int) : Nat → Shifted → Shifted
  | 0, a => a
  | fuel + 1, a =>
    if a.number.isLess (tenTo bound) then a
    else lowered bound step fuel ⟨a.number.mul (tenTo (-step)), a.power + step⟩

/-- Multiplies with `10 ^ step` as long as a number is less than `10 ^ bound`. -/
def raised (bound step : Int) : Nat → Shifted → Shifted
  | 0, a => a
  | fuel + 1, a =>
    if a.number.isLess (tenTo bound) then
      raised bound step fuel ⟨a.number.mul (tenTo step), a.power - step⟩
    else a

/-- A number brought between `10 ^ 17` and `10 ^ 19`, in steps of a hundred, ten and one places.
Doubles need no more than eleven steps of each. -/
def normalised (a : Extended) : Shifted :=
  let start : Shifted := ⟨a, 0⟩
  if a.isLess (tenTo 19) then raised 17 1 11 (raised 7 10 11 (raised (-97) 100 11 start))
  else lowered 19 1 11 (lowered 29 10 11 (lowered 119 100 11 start))

end Extended

end EntitySearch
