import EntitySearch.Json.Shape
import EntitySearch.Request.Basic

/-!
# Request documents

A request is written as a JSON document with its groups, criteria and merged groups and an optional
owner flag.
-/

namespace EntitySearch

/-- Reads a criterion. -/
def Criterion.ofJson? (value : Json) : Option Criterion := do
  let members ← value.members? ["id", "entityType", "attributePath", "operation", "value"]
  let id ← members.required? "id" Json.text?
  let entity ← members.required? "entityType" Json.text?
  let path ← members.required? "attributePath" Json.text?
  let operation ← members.required? "operation" (Json.named? Operation.ofName?)
  let value ← members.required? "value" Literal.ofJson?
  some ⟨id, entity, path, operation, value⟩

/-- Reads a group. -/
def Group.ofJson? (value : Json) : Option Group := do
  let members ← value.members? ["id", "operator", "criteriaIds"]
  let id ← members.required? "id" Json.text?
  let connective ← members.nullable? "operator" (Json.named? Connective.ofName?)
  let criteria ← members.required? "criteriaIds" (Json.list? Json.text?)
  some ⟨id, connective, criteria⟩

/-- Reads a merged group. -/
def MergedGroup.ofJson? (value : Json) : Option MergedGroup := do
  let members ← value.members? ["operator", "groupIds"]
  let connective ← members.required? "operator" (Json.named? Connective.ofName?)
  let groups ← members.required? "groupIds" (Json.list? Json.text?)
  some ⟨connective, groups⟩

namespace Request

/-- Reads merged groups by id. -/
def mergedOfJson? : Json → Option (NameMap MergedGroup)
  | .object members => do
    let groups ← members.mapM fun (id, value) => do
      let group ← MergedGroup.ofJson? value
      some (id, group)
    some (NameMap.empty.insertAll groups)
  | _ => none

/-- **Reading a request.** -/
def ofJson? (value : Json) : Option Request := do
  let members ← value.members? ["groups", "criteria", "mergedGroups", "addOwnerCriterion"]
  let groups ← members.required? "groups" (Json.list? Group.ofJson?)
  let criteria ← members.required? "criteria" (Json.list? Criterion.ofJson?)
  let merged ← members.required? "mergedGroups" mergedOfJson?
  let ownerScoped ← members.defaulted? "addOwnerCriterion" true Json.bool?
  some ⟨groups, criteria, merged, ownerScoped⟩

end Request

/-- A criterion as it is written. -/
def Criterion.toJson (criterion : Criterion) : Json :=
  .object
    [("id", .text criterion.id), ("entityType", .text criterion.entity),
     ("attributePath", .text criterion.path), ("operation", .text criterion.operation.name),
     ("value", criterion.value.toJson)]

/-- A group as it is written. -/
def Group.toJson (group : Group) : Json :=
  .object
    [("id", .text group.id), ("operator", group.connective.elim .null fun c => .text c.name),
     ("criteriaIds", .array (group.criteria.map .text))]

/-- A merged group as it is written. -/
def MergedGroup.toJson (group : MergedGroup) : Json :=
  .object
    [("operator", .text group.connective.name), ("groupIds", .array (group.members.map .text))]

namespace Request

/-- **A request as it is written.** -/
def toJson (request : Request) : Json :=
  .object
    [("groups", .array (request.groups.map Group.toJson)),
     ("criteria", .array (request.criteria.map Criterion.toJson)),
     ("mergedGroups",
       .object (request.merged.entries.map fun (id, group) => (id, group.toJson))),
     ("addOwnerCriterion", .bool request.ownerScoped)]

end Request

end EntitySearch
