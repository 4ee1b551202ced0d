import EntitySearch.Error
import EntitySearch.Metadata.FieldType
import EntitySearch.Named

/-!
# The registry of entity types

Entity types are registered under names that are plain identifiers, because names become parts of
the paths at which a database reads a document. A field is looked up on its entity type and on at
most two superclasses above; the listing of all fields follows the whole chain of superclasses.
-/

namespace EntitySearch

/-- **A registry of entity types.** -/
structure Registry where
  entities : NameMap Entity := .empty

namespace Registry

/-- The registry without entity types. -/
def empty : Registry := {}

/-- The entity type of a name. -/
def entity? (registry : Registry) (name : String) : Option Entity := registry.entities.get? name

/-! ### Registration -/

/-- Whether a character may stand in an identifier. -/
def isNameChar (c : Char) : Bool := c.isAlphanum || c == '_'

/-- Checks that a name is an identifier: ASCII letters, digits and low lines, no digit in front. -/
def checkName (name : String) : Except MetadataError Unit :=
  match name.toList with
  | [] => .error (.invalidIdentifier name .empty)
  | c :: rest =>
    if c.isDigit then .error (.invalidIdentifier name .startsWithDigit)
    else if (c :: rest).all isNameChar then .ok ()
    else .error (.invalidIdentifier name .otherCharacter)

/-- Checks the names of fields one after another; `seen` holds the names in front of them. -/
def checkFields (entity : String) : List String → List Field → Except MetadataError Unit
  | _, [] => .ok ()
  | seen, field :: rest =>
    match checkName field.name with
    | .error error => .error error
    | .ok () =>
      if seen.contains field.name then .error (.duplicateField entity field.name)
      else checkFields entity (field.name :: seen) rest

/-- Checks the name of a superclass, if there is one. -/
def checkSuperclass : Option String → Except MetadataError Unit
  | none => .ok ()
  | some name => checkName name

/-- **Registering an entity type.** -/
def register (registry : Registry) (entity : Entity) : Except MetadataError Registry := do
  checkName entity.name
  checkSuperclass entity.superclass
  checkFields entity.name [] entity.fields
  if registry.entities.contains entity.name then .error (.duplicateEntity entity.name)
  else .ok ⟨registry.entities.insert entity.name entity⟩

/-- **Registering in place**: whether it succeeds, and the registry that is there afterwards. A
registry that refuses an entity type stays as it is. -/
def registerInPlace (registry : Registry) (entity : Entity) :
    Except MetadataError Unit × Registry :=
  match registry.register entity with
  | .ok next => (.ok (), next)
  | .error error => (.error error, registry)

/-- The registry of a list of entity types, registered one after another. -/
def ofEntities (entities : List Entity) : Except MetadataError Registry :=
  entities.foldlM register empty

/-! ### Looking up fields -/

/-- The number of superclasses that are searched behind the entity type itself. -/
def lookupDepth : Nat := 2

/-- Looks up a field on an entity type and on up to `levels` superclasses above it. -/
def findFieldFrom? (registry : Registry) (field : String) : Nat → Entity → Option Field
  | levels, entity =>
    match entity.field? field with
    | some found => some found
    | none =>
      match levels with
      | 0 => none
      | levels + 1 =>
        match entity.superclass.bind registry.entity? with
        | some parent => findFieldFrom? registry field levels parent
        | none => none

/-- **Looking up a field** of an entity type by name. -/
def findField? (registry : Registry) (entity field : String) : Option Field :=
  (registry.entity? entity).bind (findFieldFrom? registry field lookupDepth)

/-- The entity types along a chain of superclasses, as long as they are registered and not met
before; `unmet` holds the names that have not been met. -/
def chainFrom (registry : Registry) (unmet : List String) (name : String) : List Entity :=
  if _ : name ∈ unmet then
    match registry.entity? name with
    | some entity =>
      entity ::
        match entity.superclass with
        | some parent => chainFrom registry (unmet.erase name) parent
        | none => []
    | none => []
  else []
  termination_by unmet.length
  decreasing_by exact Named.length_erase_lt (by assumption)

/-- **The chain of superclasses** of an entity type, itself first. It ends where it would repeat. -/
def chain (registry : Registry) (name : String) : List Entity :=
  registry.chainFrom registry.entities.names name

/-- The fields of which no field of the same name stands further in front. -/
def firstOfName (fields : List Field) : List Field :=
  fields.foldl
    (fun kept field => if kept.any (·.name = field.name) then kept else kept ++ [field]) []

/-- **All fields of an entity type**, its own first and then those of its superclasses. A field
hides those of the same name further up. -/
def allFields (registry : Registry) (name : String) : List Field :=
  firstOfName ((registry.chain name).flatMap Entity.fields)

end Registry

end EntitySearch
