import EntitySearch.Number.Double

/-!
# Decimal text of doubles

The shortest digits that read back as the same double, and the two forms in which they are written:
positional without an exponent, and the form of JSON documents.
-/

namespace EntitySearch.Double

/-- Digits and the power of ten that they are multiplied with. -/
structure Decimals where
  digits : Nat
  exponent : Int

/-- The number without its trailing zeros, which go to the exponent. -/
def Decimals.stripped : Nat → Decimals → Decimals
  | 0, d => d
  | fuel + 1, d =>
    if d.digits ≠ 0 ∧ d.digits % 10 = 0 then
      Decimals.stripped fuel ⟨d.digits / 10, d.exponent + 1⟩
    else d

/-- The power of ten of the leading digit of a positive number of units. -/
def leadingPower (units : Nat) : Int :=
  if one ≤ units then (Number.natDigits (units / one)).length - 1
  else -((Number.natDigits ((one - 1) / units)).length : Int)

/-- The fraction `units / 2 ^ 1074` in steps of `10 ^ exponent`, as numerator and denominator. -/
def inSteps (units : Nat) (exponent : Int) : Nat × Nat :=
  if 0 ≤ exponent then (units, one * Nat.pow 10 exponent.toNat)
  else (units * Nat.pow 10 (-exponent).toNat, one)

/-- Whether `count` steps of `10 ^ exponent` read back as the given units: the number lies between
the midpoints to the two neighbouring doubles, and a midpoint counts when the last significant bit
is even. All three are taken in quarters of a unit. -/
def readsBack (units : Nat) (exponent : Int) (count : Nat) : Bool :=
  let step := Nat.pow 2 (excessBits units)
  let below := if units = Nat.pow 2 52 * step && 1 < step then step else 2 * step
  let (n, d) :=
    if 0 ≤ exponent then (4 * count * (one * Nat.pow 10 exponent.toNat), 1)
    else (4 * count * one, Nat.pow 10 (-exponent).toNat)
  let low := (4 * units - below) * d
  let high := (4 * units + 2 * step) * d
  if units / step % 2 = 0 then low ≤ n && n ≤ high else low < n && n < high

/-- Which of two equally near decimals is taken: the greater one, or the one with an even last
digit. -/
inductive Tie where
  | greater
  | even

/-- Whether the lower neighbour `down` of a number is the one to take, when the number lies
`rest / whole` of the way to the upper one. -/
def Tie.takesLower (tie : Tie) (down rest whole : Nat) : Bool :=
  2 * rest < whole ||
    (2 * rest == whole &&
      match tie with
      | .greater => false
      | .even => down % 2 == 0)

/-- The decimals with the given number of digits that read back, if there are any: of the two
neighbours on that grid, the nearer one. -/
def withDigits? (tie : Tie) (units places : Nat) : Option Decimals :=
  let exponent := leadingPower units - places + 1
  let (n, d) := inSteps units exponent
  let down := n / d
  let up := down + 1
  let downFits := readsBack units exponent down
  let upFits := readsBack units exponent up
  if downFits && (!upFits || tie.takesLower down (n % d) d) then some ⟨down, exponent⟩
  else if upFits then some ⟨up, exponent⟩
  else none

/-- **The shortest decimals** that read back as a positive number of units. Seventeen digits always
suffice. -/
def shortest (tie : Tie) (units : Nat) : Decimals :=
  let found := (List.range 17).findSome? fun places => withDigits? tie units (places + 1)
  let chosen :=
    match found with
    | some decimals => decimals
    | none => ⟨units / one, 0⟩
  chosen.stripped (Number.natDigits chosen.digits).length

/-- The digits and the position of the decimal point, counted from the left of the digits. -/
def Decimals.layout (d : Decimals) : List Char × Int :=
  let digits := Number.natDigits d.digits
  (digits, digits.length + d.exponent)

/-- Digits with a point at a position, filled with zeros where the point lies outside them; no
point is written when nothing would follow it. -/
def positional (digits : List Char) (point : Int) : List Char :=
  if point ≤ 0 then '0' :: '.' :: (List.replicate (-point).toNat '0' ++ digits)
  else if digits.length ≤ point then digits ++ List.replicate (point.toNat - digits.length) '0'
  else digits.take point.toNat ++ '.' :: digits.drop point.toNat

/-- Digits with a point after the first one, if more follow. -/
def pointed (digits : List Char) : List Char :=
  match digits with
  | first :: rest@(_ :: _) => first :: '.' :: rest
  | short => short

/-- **Plain text**: shortest digits, the greater of two equally near ones, never an exponent, no
point in a whole number. -/
def plain : Double → String
  | .nan => "NaN"
  | .infinite negative => if negative then "-inf" else "inf"
  | .finite negative units =>
    if units = 0 then String.ofList (Number.signed negative ['0'])
    else
      let (digits, point) := (shortest .greater units).layout
      String.ofList (Number.signed negative (positional digits point))

/-- **JSON text** of a finite double: shortest digits, the even one of two equally near ones,
positional while the decimal point falls between five places in front of the digits and the
sixteenth place, with at least one place after the point; otherwise with an exponent. Numbers that
are not finite have none and are null. -/
def json : Double → String
  | .nan => "null"
  | .infinite _ => "null"
  | .finite negative units =>
    if units = 0 then String.ofList (Number.signed negative "0.0".toList)
    else
      let (digits, point) := (shortest .even units).layout
      let text :=
        if -5 < point && point ≤ 16 then
          if digits.length ≤ point then positional digits point ++ ".0".toList
          else positional digits point
        else pointed digits ++ 'e' :: Number.intDigits (point - 1)
      String.ofList (Number.signed negative text)

end EntitySearch.Double
