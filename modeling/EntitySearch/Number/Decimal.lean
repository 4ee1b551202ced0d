import EntitySearch.Number.Double

/-!
# Decimals

A decimal is a sign, a mantissa below `2 ^ 96` and a scale of at most 28 decimal places. The scale
belongs to the value as it is written: `1.50` and `1.5` are different decimals for the same number.
-/

namespace EntitySearch

/-- **A decimal** `± mantissa / 10 ^ scale`. -/
structure Decimal where
  negative : Bool
  mantissa : Nat
  scale : Nat
  deriving DecidableEq, Repr

namespace Decimal

/-- The bound of mantissas. -/
def limit : Nat := Nat.pow 2 96

/-- The greatest scale. -/
def maxScale : Nat := 28

/-- A decimal from its parts; zero has no sign. -/
def make (negative : Bool) (mantissa scale : Nat) : Decimal :=
  ⟨negative && mantissa != 0, mantissa, scale⟩

/-- Rounds up the last place of a mantissa. A mantissa that reaches the bound loses a place. -/
def roundUp? (negative : Bool) (mantissa scale : Nat) : Option Decimal :=
  if mantissa + 1 < limit then some (make negative (mantissa + 1) scale)
  else if scale = 0 then none
  else some (make negative ((mantissa + 5) / 10) (scale - 1))

/-- Ends a number at the first character that does not fit: a digit from five on rounds up. What
follows that character has no influence. -/
def endAt? (negative : Bool) (mantissa scale : Nat) (c : Char) : Option Decimal :=
  if c.isDigit then
    if 5 ≤ Number.digitValue c then roundUp? negative mantissa scale
    else some (make negative mantissa scale)
  else if c = '_' || c = '.' then some (make negative mantissa scale)
  else none

/-- Multiplies a decimal by a power of ten: first the scale shrinks or grows, and past zero the
mantissa grows. -/
def scaled? (negative : Bool) (mantissa scale : Nat) (exponent : Int) : Option Decimal :=
  if exponent ≤ scale then
    let places := (scale - exponent).toNat
    if places ≤ maxScale then some (make negative mantissa places) else none
  else
    let zeros := (exponent - scale).toNat
    if maxScale < zeros then none
    else
      let grown := mantissa * Nat.pow 10 zeros
      if grown < limit then some (make negative grown 0) else none

/-- Reads digits behind a sign. `seen` tells whether a digit has been read and `pointed` whether
the point has; a low line may stand anywhere behind the first digit. -/
def readDigits? (negative seen pointed : Bool) (mantissa scale : Nat) : List Char → Option Decimal
  | [] => if seen then some (make negative mantissa scale) else none
  | c :: rest =>
    if (c = 'e' || c = 'E') && seen then
      (Double.readExponent? (c :: rest)).bind (scaled? negative mantissa scale)
    else if pointed && scale == maxScale then endAt? negative mantissa scale c
    else if c.isDigit then
      let next := 10 * mantissa + Number.digitValue c
      if next < limit then
        readDigits? negative true pointed next (if pointed then scale + 1 else scale) rest
      else if pointed then endAt? negative mantissa scale c
      else none
    else if c = '.' && !pointed then readDigits? negative seen true mantissa scale rest
    else if c = '_' && seen then readDigits? negative seen pointed mantissa scale rest
    else none

/-- **Reading a decimal**: an optional sign, digits with at most one point, and an optional
exponent. Places behind the last one that fits are rounded away, a half going up. -/
def read? : List Char → Option Decimal
  | '-' :: rest => readDigits? true false false 0 0 rest
  | '+' :: rest => readDigits? false false false 0 0 rest
  | s => readDigits? false false false 0 0 s

/-- **The text of a decimal**, with exactly as many places as its scale. -/
def text (d : Decimal) : String :=
  let digits := Number.padded (d.scale + 1) d.mantissa
  let whole := digits.take (digits.length - d.scale)
  let places := digits.drop (digits.length - d.scale)
  String.ofList
    (Number.signed d.negative (if places.isEmpty then whole else whole ++ '.' :: places))

/-- The power of a magnitude by repeated squaring, each product rounded. -/
def powerUnits : Nat → Nat → Nat → Nat → Nat
  | 0, result, _, _ => result
  | fuel + 1, result, base, n =>
    let result := if n % 2 = 1 then Double.mulUnits result base else result
    if n / 2 = 0 then result else powerUnits fuel result (Double.mulUnits base base) (n / 2)

/-- **The double for a decimal.** Whole part and fraction are converted on their own and added, and
the sum is rounded once more to the places of the scale. -/
def toDouble (d : Decimal) : Double :=
  if d.scale = 0 then Double.ofRatio (d.negative && d.mantissa != 0) d.mantissa 1
  else
    let power := Nat.pow 10 d.scale
    let whole := Double.roundUnits (d.mantissa / power * Double.one) 1
    let fraction :=
      Double.divUnits (Double.roundUnits (d.mantissa % power * Double.one) 1)
        (Double.roundUnits (power * Double.one) 1)
    if fraction = 0 then Double.ofUnits d.negative whole
    else
      let shift := powerUnits 6 Double.one (10 * Double.one) d.scale
      let sum := Double.addUnits whole fraction
      Double.ofUnits d.negative
        (Double.divUnits (Double.wholeUnits (Double.mulUnits sum shift)) shift)

end Decimal

end EntitySearch
