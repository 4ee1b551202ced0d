import EntitySearch.Attribute.Basic
import EntitySearch.Json.Basic

/-!
# Projections

A projection keeps the `id` of a document and the values at some paths, each at its own place.
Values that are missing or null are left out.
-/

namespace EntitySearch

namespace Json

/-- The members of an object; other values count as an empty object. -/
def membersOrNone : Json → List (String × Json)
  | object members => members
  | _ => []

/-- **Putting a value at a path** in the members of an object. A value on the way that is no object
is replaced by one. -/
def putAt : List String → Json → List (String × Json) → List (String × Json)
  | [], _, members => members
  | [name], value, members => Named.put name value members
  | name :: next :: path, value, members =>
    let inner := ((Named.get? name members).map membersOrNone).getD []
    Named.put name (object (putAt (next :: path) value inner)) members

end Json

namespace Projection

/-- The value that is found at a path; a missing value is null. -/
def valueAt (find? : List String → Option Json) (path : List String) : Json :=
  (find? path).getD .null

/-- Adds the value at a path to the members of a projected document. -/
def keep (find? : List String → Option Json) (members : List (String × Json))
    (path : List String) : List (String × Json) :=
  match valueAt find? path with
  | .null => members
  | value => Json.putAt path value members

/-- The members that every projection starts with. -/
def idMembers (find? : List String → Option Json) : List (String × Json) :=
  match find? ["id"] with
  | some id => [("id", id)]
  | none => []

/-- **Projecting a document** to some paths, with the value that is found at each of them. -/
def ofPaths (find? : List String → Option Json) (paths : List (List String)) : Json :=
  .object (paths.foldl (keep find?) (idMembers find?))

end Projection

end EntitySearch
