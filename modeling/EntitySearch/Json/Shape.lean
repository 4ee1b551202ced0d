import EntitySearch.Json.Basic

/-!
# Shapes of documents

Reading structures, names and ranges of numbers out of JSON values. A structure is an object, in
which members that are not expected are ignored and no expected member may be repeated, or an array
of the values of its members in their order. A reader that refuses a value gives none.
-/

namespace EntitySearch.Json

/-- **The members of a structure**, and whether it was written as an array. -/
structure Members where
  positional : Bool
  values : List (String × Json)

/-- Whether some name stands in a list of members more than once. -/
def repeats (names : List String) (members : List (String × Json)) : Bool :=
  names.any fun name => 1 < (members.filter fun member => member.1 = name).length

/-- The members of a structure with the given names. -/
def members? (names : List String) : Json → Option Members
  | .object members => if repeats names members then none else some ⟨false, members⟩
  | .array items => if items.length ≤ names.length then some ⟨true, names.zip items⟩ else none
  | _ => none

namespace Members

variable {α : Type}

/-- Reads a member that has to be there. -/
def required? (members : Members) (name : String) (read? : Json → Option α) : Option α :=
  (Named.get? name members.values).bind read?

/-- Reads a member that has a default. -/
def defaulted? (members : Members) (name : String) (default : α) (read? : Json → Option α) :
    Option α :=
  match Named.get? name members.values with
  | some value => read? value
  | none => some default

/-- A reader that also takes null. -/
def orNull? (read? : Json → Option α) : Json → Option (Option α)
  | .null => some none
  | value => (read? value).map some

/-- Reads a member that may be null, and missing in an object. -/
def nullable? (members : Members) (name : String) (read? : Json → Option α) : Option (Option α) :=
  match Named.get? name members.values with
  | some value => orNull? read? value
  | none => if members.positional then none else some none

end Members

/-! ### Readers of values -/

/-- Reads a text. -/
def text? : Json → Option String
  | .text value => some value
  | _ => none

/-- Reads a boolean. -/
def bool? : Json → Option Bool
  | .bool value => some value
  | _ => none

/-- Reads an integer in a range. -/
def intIn? (low high : Int) : Json → Option Int
  | .int value => if low ≤ value && value ≤ high then some value else none
  | _ => none

/-- Reads a natural number up to a greatest one. -/
def natUpTo? (high : Nat) (value : Json) : Option Nat := (intIn? 0 high value).map Int.toNat

/-- Reads an array with a reader for its items. -/
def list? {α : Type} (read? : Json → Option α) : Json → Option (List α)
  | .array items => items.mapM read?
  | _ => none

/-- Reads the name of a case without members: a text, or an object whose only member is null. -/
def caseName? : Json → Option String
  | .text name => some name
  | .object [(name, .null)] => some name
  | _ => none

/-- Reads a value that is given by its name. -/
def named? {α : Type} (ofName? : String → Option α) (value : Json) : Option α :=
  (caseName? value).bind ofName?

end EntitySearch.Json
