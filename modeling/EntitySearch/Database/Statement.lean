import EntitySearch.Database.Fragment
import EntitySearch.Store.Basic

/-!
# Statements

The complete statements that fetch a page of records and count matches. Entity type, paths, page and
all values of a request are parameters.
-/

namespace EntitySearch.Database

/-- The greatest integer that a parameter can be. -/
def maxParameter : Nat := Nat.pow 2 63 - 1

/-- A natural number as a parameter; one that is too great is cut to the greatest. -/
def natParameter (n : Nat) : Parameter := .integer (min n maxParameter)

/-- The columns behind the id: the document, or its `id` and the value of every projected
attribute. -/
def columns : Option (List Attribute) → Fragment
  | none => ⟨"e.data", []⟩
  | some shown =>
    ⟨Text.joined ", " ("e.data -> '$.id'" :: shown.map fun _ => "e.data -> ?"),
      shown.map fun a => .text (pathText a.documentPath)⟩

/-- The keyword of a direction. -/
def directionText : Direction → String
  | .ascending => "ASC"
  | .descending => "DESC"

/-- **The statement that fetches a page.** -/
def fetchStatement (fetch : Fetch) (filter : Filter Condition) : Fragment :=
  let shown := columns fetch.projection
  let clause := fragment filter
  ⟨"SELECT e.id, " ++ shown.text ++ " FROM entities e WHERE e.entity_type = ? AND (" ++
      clause.text ++ ") ORDER BY json_extract(e.data, ?) " ++ directionText fetch.direction ++
      ", e.rowid ASC LIMIT ? OFFSET ?",
    shown.parameters ++ .text fetch.entity :: clause.parameters ++
      [.text (pathText fetch.sort.documentPath), natParameter fetch.limit,
       natParameter fetch.offset]⟩

/-- **The statement that counts matches.** -/
def countStatement (entity : String) (filter : Filter Condition) : Fragment :=
  let clause := fragment filter
  ⟨"SELECT COUNT(*) FROM entities e WHERE e.entity_type = ? AND (" ++ clause.text ++ ")",
    .text entity :: clause.parameters⟩

end EntitySearch.Database
