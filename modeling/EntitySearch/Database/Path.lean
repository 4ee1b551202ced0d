import EntitySearch.Database.Value

/-!
# Paths

A path is a list of member names from the root of a document. The engine compares a name in a path
with the labels of members, and a label ends at a NUL.
-/

namespace EntitySearch.Database

/-- The code points of a string. -/
def pointsOf (s : String) : List Nat := s.toList.map Char.toNat

/-- Whether a name in a path finds a member with a name of the given code points. -/
def finds (name : String) (points : List Nat) : Bool := Value.untilNul points == pointsOf name

/-- The value of the first member of an object that a name finds. -/
def memberAt? (name : String) : Json → Option Json
  | .object members => (members.find? fun member => finds name (pointsOf member.1)).map Prod.snd
  | _ => none

/-- **The value of a document at a path.** -/
def found? : List String → Json → Option Json
  | [], document => some document
  | name :: path, document => (memberAt? name document).bind (found? path)

/-- The text of a path. -/
def pathText (path : List String) : String :=
  "$" ++ String.join (path.map ("." ++ ·))

end EntitySearch.Database
