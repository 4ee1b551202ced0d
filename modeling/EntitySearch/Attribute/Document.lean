import EntitySearch.Attribute.Basic
import EntitySearch.Metadata.Document

/-!
# Attributes as documents

A resolved attribute is written with all that has been found out about it. It can also be given
directly, by a path, the type of its field and an optional relation.
-/

namespace EntitySearch

/-- Reads a join from its description. -/
def Join.ofJson? (value : Json) : Option Join := do
  let relation ← (value.member? "name").bind Json.text?
  let target ← (value.member? "target").bind Json.text?
  let many ← (value.member? "many").bind Json.bool?
  some ⟨relation, target, many⟩

/-- **Reading an attribute** of an owner. Its field has the last name of the path. -/
def Attribute.ofJson? (owner : String) (value : Json) : Option Attribute := do
  let path ← (value.member? "path").bind (Json.list? Json.text?)
  let type ← (value.member? "type").bind FieldType.ofJson?
  let join ← Json.Members.orNull? Join.ofJson? ((value.member? "relation").getD .null)
  some ⟨owner, join, path, ⟨path.getLastD "", type⟩⟩

/-- A join as it is written. -/
def Join.toJson (join : Join) : Json :=
  .object
    [("relation", .text join.relation), ("target_type", .text join.target),
      ("many", .bool join.many)]

/-- **A resolved attribute as it is written.** -/
def Attribute.toJson (a : Attribute) : Json :=
  .object
    [("owner_type", .text a.owner), ("join", a.join.elim .null Join.toJson),
     ("path", .array (a.path.map .text)), ("field", a.field.toJson), ("display", .text a.text),
     ("document_path", .array (a.documentPath.map .text)),
     ("many_join", .bool a.manyJoin?.isSome)]

end EntitySearch
