import EntitySearch.Database.Value

/-!
# Parameters

The values that a statement takes from outside. A parameter is bound as the database value that it
stands for, but a NaN is bound as null.
-/

namespace EntitySearch.Database

/-- **A parameter of a statement.** -/
inductive Parameter where
  | null
  | integer (value : Int)
  | real (value : Double)
  | text (value : String)
  deriving DecidableEq, Repr

namespace Parameter

/-- **The parameter for a typed value.** Lists and null are null. -/
def ofTyped (value : TypedValue) : Parameter :=
  match value with
  | .bool b => integer (if b then 1 else 0)
  | .integer n | .long n => integer n
  | .double x => real x
  | .decimal d => real d.toDouble
  | other =>
    match other.toText? with
    | some stored => text stored
    | none => null

/-- **The value that a statement sees** for a parameter. -/
def value : Parameter → Value
  | null => .null
  | integer n => .integer n
  | real .nan => .null
  | real x => .real x
  | text s => .ofString s

end Parameter

end EntitySearch.Database
