import EntitySearch.Json.Text
import EntitySearch.Text.Ascii

/-!
# Records

A stored entity is a record: its entity type, its id and its document.
-/

namespace EntitySearch

/-- **A record.** -/
structure Record where
  entity : String
  id : String
  document : Json
  deriving BEq, Repr

namespace Record

/-- The text of a document member as an id: texts and numbers have one. -/
def idText? : Json → Option String
  | .text id => some id
  | .int n => some (Number.intText n)
  | .real x => some x.json
  | _ => none

/-- **The record of a document**, with the id that the document has. -/
def ofDocument? (entity : String) (document : Json) : Option Record :=
  ((document.member? "id").bind idText?).map fun id => ⟨entity, id, document⟩

/-- The value at a path of member names with dots between them. -/
def at? (record : Record) (path : String) : Option Json :=
  record.document.at? ((Text.splitAt '.' path.toList).map String.ofList)

/-- Whether the record is the one of an entity type and an id. -/
def hasKey (record : Record) (entity id : String) : Bool :=
  record.entity == entity && record.id == id

end Record

end EntitySearch
