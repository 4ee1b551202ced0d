import EntitySearch.Named
import EntitySearch.Number.Shortest

/-!
# JSON values

Documents, requests and metadata are JSON values. A number is an integer when it is written as one
in the 64-bit range, and otherwise a double. An object is a list of members; a canonical object has
its names in rising order and each name once, and of two members with one name the later one
counts.
-/

namespace EntitySearch

/-- **A JSON value.** -/
inductive Json where
  | null
  | bool (value : Bool)
  | int (value : Int)
  | real (value : Double)
  | text (value : String)
  | array (items : List Json)
  | object (members : List (String × Json))
  deriving BEq, Repr, Inhabited

namespace Json

/-- The value of a member of an object; other values have no members. -/
def member? (name : String) : Json → Option Json
  | object members => Named.get? name members
  | _ => none

/-- **The value at a path** of member names. -/
def at? : List String → Json → Option Json
  | [], doc => some doc
  | name :: path, doc => (doc.member? name).bind (at? path)

mutual

/-- **The canonical form**: the names of every object in rising order, the last member of a name. -/
def canonical : Json → Json
  | array items => array (canonicalItems items)
  | object members => object (canonicalMembers members [])
  | value => value

/-- The canonical forms of the items of an array. -/
def canonicalItems : List Json → List Json
  | [] => []
  | item :: rest => canonical item :: canonicalItems rest

/-- Puts the canonical forms of members into a list, from the first to the last. -/
def canonicalMembers : List (String × Json) → List (String × Json) → List (String × Json)
  | [], sorted => sorted
  | (name, value) :: rest, sorted => canonicalMembers rest (Named.put name (canonical value) sorted)

end

end Json

end EntitySearch
