import EntitySearch.Attribute.Basic
import EntitySearch.Metadata.Registry
import EntitySearch.Text.Blank

/-!
# Resolving attribute paths

A path lists field names with dots between them. Every name but the last one has to be an embedded
field. The name of the entity type itself may stand in front, and so may one relation in brackets.
-/

namespace EntitySearch.Registry

/-- The trimmed names between the dots of a path; none of them may be empty. -/
def segments (s : List Char) : Except PathFault (List String) :=
  let names := (Text.splitAt '.' s).map Text.trim
  if names.any List.isEmpty then .error .emptySegment else .ok (names.map String.ofList)

/-- **Following names** from an entity type through embedded fields to a field. -/
def walk (registry : Registry) : String → List String → Except PathFault (List String × Field)
  | _, [] => .error .emptyPath
  | entity, name :: rest =>
    match registry.findField? entity name with
    | none => .error (.unknownField name entity)
    | some field =>
      if rest.isEmpty then .ok ([field.name], field)
      else
        match field.type with
        | .embedded inner =>
          match walk registry inner rest with
          | .ok (path, last) => .ok (field.name :: path, last)
          | .error fault => .error fault
        | .relation .. => .error (.notJoined name)
        | other => .error (.notTraversable other.kind name)

/-- Names without the name of the entity type in front, when other names follow it. -/
def withoutOwner (entity : Entity) : List String → List String
  | first :: second :: rest =>
    if Text.sameIgnoringCase first entity.name then second :: rest else first :: second :: rest
  | names => names

/-- Resolves a path without a relation. -/
def resolvePlain (registry : Registry) (entity : Entity) (s : List Char) :
    Except PathFault Attribute := do
  let names ← segments s
  let (path, field) ← registry.walk entity.name (withoutOwner entity names)
  .ok ⟨entity.name, none, path, field⟩

/-- The name of a relation and the path behind it, from the text behind an opening bracket. -/
def relationAndRest (s : List Char) : Except PathFault (String × List Char) :=
  let relation := s.takeWhile (· ≠ ']')
  match s.dropWhile (· ≠ ']') with
  | [] => .error .unclosedRelation
  | _ :: rest =>
    let name := String.ofList (Text.trim relation)
    match rest with
    | '.' :: path =>
      if (Text.trim path).isEmpty then .error (.fieldExpected name)
      else if path.contains '[' then .error .secondJoin
      else .ok (name, path)
    | _ => .error (.fieldExpected name)

/-- The join across the relation of a name. -/
def joinOf (registry : Registry) (entity : Entity) (relation : String) : Except PathFault Join :=
  match registry.findField? entity.name relation with
  | none => .error (.unknownRelation relation)
  | some field =>
    match field.type with
    | .relation target many => .ok ⟨relation, target, many⟩
    | other => .error (.notARelation relation other.kind)

/-- Resolves a path behind the opening bracket of a relation. -/
def resolveJoined (registry : Registry) (entity : Entity) (s : List Char) :
    Except PathFault Attribute := do
  let (relation, rest) ← relationAndRest s
  let join ← registry.joinOf entity relation
  let names ← segments rest
  let (path, field) ← registry.walk join.target names
  .ok ⟨entity.name, some join, path, field⟩

/-- Resolves a path from the name of an entity type. -/
def resolvePath (registry : Registry) (name path : String) : Except PathFault Attribute :=
  match registry.entity? name with
  | none => .error (.unknownEntity name)
  | some entity =>
    match Text.trim path.toList with
    | [] => .error .emptyPath
    | '[' :: rest => registry.resolveJoined entity rest
    | s => registry.resolvePlain entity s

/-- **Resolving an attribute path** against an entity type. -/
def resolve (registry : Registry) (entity path : String) : Except SearchError Attribute :=
  match registry.resolvePath entity path with
  | .ok found => .ok found
  | .error fault => .error (.unresolved entity path fault)

end EntitySearch.Registry
