import EntitySearch.Json.Reader
import EntitySearch.Json.Shape
import EntitySearch.Metadata.Registry

/-!
# Metadata documents

A registry is written as a JSON document with one list of entity types. The type of a field is given
by its member `kind` and by the members that belong to the kind; in a field these stand beside its
name.
-/

namespace EntitySearch

namespace FieldType

/-- The kinds of fields, in their order. -/
def kinds : List String :=
  ["text", "integer", "long", "double", "decimal", "boolean", "uuid", "date", "datetime", "enum",
   "embedded", "relation"]

/-- The type of a kind, with the members that belong to it. -/
def ofKind? (kind : String) (rest : Json) : Option FieldType :=
  match kind with
  | "text" => some text
  | "integer" => some integer
  | "long" => some long
  | "double" => some double
  | "decimal" => some decimal
  | "boolean" => some boolean
  | "uuid" => some uuid
  | "date" => some date
  | "datetime" => some dateTime
  | "enum" => do
    let members ← rest.members? ["constants"]
    some (enumeration (← members.required? "constants" (Json.list? Json.text?)))
  | "embedded" => do
    let members ← rest.members? ["type_name"]
    some (embedded (← members.required? "type_name" Json.text?))
  | "relation" => do
    let members ← rest.members? ["target", "many"]
    let target ← members.required? "target" Json.text?
    some (relation target (← members.defaulted? "many" false Json.bool?))
  | _ => none

/-- **Reading a field type**: an object with its kind, or an array that starts with it. -/
def ofJson? : Json → Option FieldType
  | .object members =>
    if Json.repeats ["kind"] members then none
    else
      match Named.get? "kind" members with
      | some (.text kind) => ofKind? kind (.object members)
      | _ => none
  | .array (.text kind :: rest) => ofKind? kind (.array rest)
  | _ => none

/-- The kind that stands beside the name of a field: its name, or its position among the kinds. -/
def kindOfMember? : Json → Option String
  | .text kind => some kind
  | .int position => if 0 ≤ position then kinds[position.toNat]? else none
  | _ => none

/-- The members of a field type as they are written. -/
def members : FieldType → List (String × Json)
  | enumeration constants => [("kind", .text "enum"), ("constants", .array (constants.map .text))]
  | embedded entity => [("kind", .text "embedded"), ("type_name", .text entity)]
  | relation target many =>
    [("kind", .text "relation"), ("target", .text target), ("many", .bool many)]
  | simple => [("kind", .text simple.kind)]

end FieldType

/-- **Reading a field.** -/
def Field.ofJson? : Json → Option Field
  | .object members =>
    if Json.repeats ["name", "kind"] members then none
    else do
      let name ← (Named.get? "name" members).bind Json.text?
      let kind ← (Named.get? "kind" members).bind FieldType.kindOfMember?
      some ⟨name, ← FieldType.ofKind? kind (.object members)⟩
  | _ => none

/-- A field as it is written. -/
def Field.toJson (field : Field) : Json :=
  .object (("name", .text field.name) :: field.type.members)

/-- **Reading an entity type.** -/
def Entity.ofJson? (value : Json) : Option Entity := do
  let members ← value.members? ["name", "superclass", "fields"]
  let name ← members.required? "name" Json.text?
  let superclass ← members.defaulted? "superclass" none (Json.Members.orNull? Json.text?)
  let fields ← members.defaulted? "fields" [] (Json.list? Field.ofJson?)
  some ⟨name, superclass, fields⟩

/-- An entity type as it is written. -/
def Entity.toJson (entity : Entity) : Json :=
  .object
    [("name", .text entity.name), ("superclass", entity.superclass.elim .null .text),
     ("fields", .array (entity.fields.map Field.toJson))]

namespace Registry

/-- The entity types of a metadata document. -/
def entitiesOf? (document : Json) : Option (List Entity) := do
  let members ← document.members? ["entities"]
  members.required? "entities" (Json.list? Entity.ofJson?)

/-- **Reading a registry** from a document. -/
def ofJson (document : Json) : Except MetadataError Registry :=
  match entitiesOf? document with
  | some entities => ofEntities entities
  | none => .error .unreadable

/-- Reading a registry from the text of a document. -/
def ofText (text : String) : Except MetadataError Registry :=
  match Json.read? text with
  | some document => ofJson document
  | none => .error .unreadable

end Registry

end EntitySearch
