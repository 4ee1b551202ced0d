import EntitySearch.Error
import EntitySearch.Json.Reader
import EntitySearch.Json.Shape
import EntitySearch.Operation

/-!
# Configuration

The defaults for the options of a search and the switches of the query language. A configuration
document may leave out any member.
-/

namespace EntitySearch

/-- **The configuration of searches.** `rejectMixed` refuses queries that mix `&` and `|` at one
level, and `wrapPatterns` puts `%` around patterns that have none. -/
structure Config where
  pageSize : Nat := 50
  sortField : String := "id"
  direction : Direction := .ascending
  rejectMixed : Bool := false
  wrapPatterns : Bool := true
  deriving DecidableEq, Repr

namespace Config

/-- The names of the members of a configuration document, in their order. -/
def memberNames : List String :=
  ["default_page_size", "default_sort_field", "default_sort_direction", "reject_mixed_operators",
   "wrap_like_values"]

/-- Reads a configuration. -/
def ofJson? (document : Json) : Option Config := do
  let members ← document.members? memberNames
  let pageSize ← members.defaulted? "default_page_size" 50 (Json.natUpTo? Number.maxNat32)
  let sortField ← members.defaulted? "default_sort_field" "id" Json.text?
  let direction ←
    members.defaulted? "default_sort_direction" .ascending (Json.named? Direction.ofName?)
  let rejectMixed ← members.defaulted? "reject_mixed_operators" false Json.bool?
  let wrapPatterns ← members.defaulted? "wrap_like_values" true Json.bool?
  some ⟨pageSize, sortField, direction, rejectMixed, wrapPatterns⟩

/-- **Reading a configuration** from a document. -/
def ofJson (document : Json) : Except SearchError Config :=
  match ofJson? document with
  | some config => .ok config
  | none => .error (.configuration .unreadable)

/-- Reading a configuration from the text of a document. -/
def ofText (text : String) : Except SearchError Config :=
  match Json.read? text with
  | some document => ofJson document
  | none => .error (.configuration .unreadable)

/-- A configuration as it is written. -/
def toJson (config : Config) : Json :=
  .object
    [("default_page_size", .int config.pageSize), ("default_sort_field", .text config.sortField),
     ("default_sort_direction", .text config.direction.name),
     ("reject_mixed_operators", .bool config.rejectMixed),
     ("wrap_like_values", .bool config.wrapPatterns)]

end Config

end EntitySearch
