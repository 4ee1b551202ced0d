import EntitySearch.Json.Text
import EntitySearch.Number.EngineText
import EntitySearch.TypedValue

/-!
# Database values

The values that a database reads out of stored documents and compares. Null has no order against
anything in a comparison; in a sort it comes first. Numbers are ordered by exact value and come in
front of texts, which are ordered by their code points. A text is a list of code points rather than
a string, for an escape in a stored text can stand for one half of a surrogate pair.
-/

namespace EntitySearch.Database

/-- **A database value.** -/
inductive Value where
  | null
  | integer (value : Int)
  | real (value : Double)
  | text (points : List Nat)
  deriving DecidableEq, Repr

namespace Value

/-- The text of a list of characters. -/
def ofChars (chars : List Char) : Value := text (chars.map Char.toNat)

/-- The text of a string. -/
def ofString (s : String) : Value := ofChars s.toList

/-- **The value that is read** where a document holds a JSON value, or none at all. The database
reads numbers from the text of the document. Arrays and objects are read as their JSON text. -/
def ofJson : Option Json → Value
  | none | some .null => null
  | some (.bool value) => integer (if value then 1 else 0)
  | some (.int n) => if Number.isInt64 n then integer n else real (Double.ofInt n)
  | some (.real x) => real x.reread
  | some (.text value) => ofString value
  | some value => ofString value.compact

/-- **The order of two values** in a comparison, unless one of them is null. -/
def order? : Value → Value → Option Ordering
  | null, _ | _, null => none
  | integer a, integer b => some (compare a b)
  | integer a, real b => b.orderInt a
  | real a, integer b => (a.orderInt b).map Ordering.swap
  | real a, real b => a.order b
  | text a, text b => some (compare a b)
  | text _, _ => some .gt
  | _, text _ => some .lt

/-- **The order of two values** in a sort. -/
def sortOrder : Value → Value → Ordering
  | null, null => .eq
  | null, _ => .lt
  | _, null => .gt
  | a, b => (a.order? b).getD .eq

/-! ### Texts for patterns -/

/-- The points of a text up to its first NUL. -/
def untilNul (points : List Nat) : List Nat := points.takeWhile (· ≠ 0)

/-- Whether a code point is no character in a pattern: half of a surrogate pair, or one of the two
last points of the basic plane. -/
def isStray (point : Nat) : Bool :=
  (0xD800 ≤ point && point < 0xE000) || point = 0xFFFE || point = 0xFFFF

/-- The character that a pattern meets for a code point. -/
def patternChar (point : Nat) : Char := if isStray point then '\uFFFD' else Char.ofNat point

/-- The characters that a pattern meets in a text, up to a NUL. -/
def patternChars (points : List Nat) : List Char := (untilNul points).map patternChar

/-- The text of a value for patterns. -/
def patternText? : Value → Option (List Char)
  | null => none
  | integer n => some (Number.intDigits n)
  | real x => some x.engineText.toList
  | text points => some (patternChars points)

end Value

end EntitySearch.Database
