import EntitySearch.Json.Text
import EntitySearch.TypedValue

/-!
# Scalars

Values are compared as scalars: integers and reals by exact value, numbers in front of texts, and
texts by their code points. Booleans count as integers; an array or an object compares as its JSON
text. Null is no scalar.
-/

namespace EntitySearch

/-- **A scalar**, the form in which values are compared. -/
inductive Scalar where
  | integer (value : Int)
  | real (value : Double)
  | text (value : String)
  deriving DecidableEq, Repr

namespace Scalar

/-- The order of an integer and a real; a NaN counts as equal. -/
def orderMixed (n : Int) (x : Double) : Ordering := (x.orderInt n).getD .eq

/-- **The order of scalars.** A NaN counts as equal to every number. -/
def order : Scalar → Scalar → Ordering
  | integer a, integer b => compare a b
  | integer a, real b => orderMixed a b
  | real a, integer b => (orderMixed b a).swap
  | real a, real b => (a.order b).getD .eq
  | text a, text b => compare a b
  | text _, _ => .gt
  | _, text _ => .lt

end Scalar

/-- **The scalar of a stored value.** An integer beyond the signed 64-bit range counts as the
nearest real. -/
def Json.scalar? : Json → Option Scalar
  | null => none
  | bool value => some (.integer (if value then 1 else 0))
  | int n => some (if Number.isInt64 n then .integer n else .real (Double.ofInt n))
  | real x => some (.real x)
  | text value => some (.text value)
  | value => some (.text value.compact)

/-- **The scalar of a typed value**: its integer, else its real, else its stored text. -/
def TypedValue.scalar? (value : TypedValue) : Option Scalar :=
  match value.toInt?, value.toDouble?, value.toText? with
  | some n, _, _ => some (.integer n)
  | none, some x, _ => some (.real x)
  | none, none, some stored => some (.text stored)
  | none, none, none => none

/-- The order of a stored value and a typed value, unless one of them is null. -/
def Json.orderTyped? (stored : Json) (value : TypedValue) : Option Ordering :=
  match stored.scalar?, value.scalar? with
  | some a, some b => some (a.order b)
  | _, _ => none

/-- **The sort order of stored values.** Null comes first. -/
def Json.sortOrder (a b : Json) : Ordering :=
  match a.scalar?, b.scalar? with
  | none, none => .eq
  | none, some _ => .lt
  | some _, none => .gt
  | some x, some y => x.order y

end EntitySearch
