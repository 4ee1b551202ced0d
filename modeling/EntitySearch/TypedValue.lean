import EntitySearch.Calendar.DateTime
import EntitySearch.Number.Decimal
import EntitySearch.Number.Shortest
import EntitySearch.Uuid

/-!
# Typed values

A literal after conversion to the type of its attribute. Null stands for a null literal and for a
name that is no constant of an enumeration.
-/

namespace EntitySearch

/-- **A typed value.** -/
inductive TypedValue where
  | null
  | bool (value : Bool)
  | integer (value : Int)
  | long (value : Int)
  | double (value : Double)
  | decimal (value : Decimal)
  | text (value : String)
  | uuid (value : Uuid)
  | date (value : Date)
  | dateTime (value : DateTime)
  | constant (name : String)
  | list (items : List TypedValue)
  deriving BEq

namespace TypedValue

/-- Whether the value is null. -/
def isNull : TypedValue → Bool
  | null => true
  | _ => false

/-- Whether the value compares as a number. -/
def isNumeric : TypedValue → Bool
  | bool _ | integer _ | long _ | double _ | decimal _ => true
  | _ => false

/-- The exact integer for integers and booleans. -/
def toInt? : TypedValue → Option Int
  | bool value => some (if value then 1 else 0)
  | integer value | long value => some value
  | _ => none

/-- The double for numbers and booleans. -/
def toDouble? : TypedValue → Option Double
  | bool value => some (Double.ofInt (if value then 1 else 0))
  | integer value | long value => some (Double.ofInt value)
  | double value => some value
  | decimal value => some value.toDouble
  | _ => none

/-- **The stored text** of a value that is stored as text. -/
def toText? : TypedValue → Option String
  | text value | constant value => some value
  | uuid value => some value.text
  | date value => some value.text
  | dateTime value => some value.text
  | _ => none

mutual

/-- The text of a value in messages and patterns. -/
def display : TypedValue → String
  | null => "null"
  | bool value => if value then "true" else "false"
  | integer value | long value => Number.intText value
  | double value => value.plain
  | decimal value => value.text
  | text value | constant value => value
  | uuid value => value.text
  | date value => value.text
  | dateTime value => value.text
  | list items => "[" ++ displayItems items ++ "]"

/-- The texts of the items of a list, with commas between them. -/
def displayItems : List TypedValue → String
  | [] => ""
  | [item] => display item
  | item :: next :: rest => display item ++ ", " ++ displayItems (next :: rest)

end

/-- The text of the value as a pattern. -/
def patternText (value : TypedValue) : String := value.toText?.getD value.display

end TypedValue

end EntitySearch
