/-!
# Fields and entities

The declared shape of entity types: fields with their types, and an optional superclass whose fields
are inherited.
-/

namespace EntitySearch

/-- **The declared type of a field.** -/
inductive FieldType where
  | text
  | integer
  | long
  | double
  | decimal
  | boolean
  | uuid
  | date
  | dateTime
  | enumeration (constants : List String)
  | embedded (entity : String)
  | relation (target : String) (many : Bool)
  deriving DecidableEq, Repr

namespace FieldType

/-- The name of the kind of a type. -/
def kind : FieldType → String
  | text => "text"
  | integer => "integer"
  | long => "long"
  | double => "double"
  | decimal => "decimal"
  | boolean => "boolean"
  | uuid => "uuid"
  | date => "date"
  | dateTime => "datetime"
  | enumeration _ => "enum"
  | embedded _ => "embedded"
  | relation .. => "relation"

/-- Whether a field of the type holds one comparable value. -/
def isScalar : FieldType → Bool
  | embedded _ | relation .. => false
  | _ => true

/-- Whether the type is a relation. -/
def isRelation : FieldType → Bool
  | relation .. => true
  | _ => false

end FieldType

/-- **A declared field.** Its name is also its key in stored documents. -/
structure Field where
  name : String
  type : FieldType
  deriving DecidableEq, Repr

/-- **A declared entity type**, with the fields that it declares itself. -/
structure Entity where
  name : String
  superclass : Option String := none
  fields : List Field := []
  deriving DecidableEq, Repr

/-- The field of a name that the entity type declares itself. -/
def Entity.field? (entity : Entity) (name : String) : Option Field :=
  entity.fields.find? fun field => field.name = name

end EntitySearch
