import EntitySearch.Metadata.FieldType
import EntitySearch.Text.Ascii

/-!
# Attributes

An attribute is a field at the end of a path: on the searched entity type itself, inside embedded
objects, or on the entities of a relation. Related entities are stored inside the document of their
owner. A relation to one entity holds an object, and a path simply goes on into it; a relation to
many holds an array, and a condition on the attribute is to hold for some element.
-/

namespace EntitySearch

/-- **A join** across a relation. -/
structure Join where
  relation : String
  target : String
  many : Bool
  deriving DecidableEq, Repr

/-- **A resolved attribute.** The path starts in the related entity when there is a join, and in the
owner when there is none. -/
structure Attribute where
  owner : String
  join : Option Join
  path : List String
  field : Field
  deriving DecidableEq, Repr

namespace Attribute

/-- The path from the document of the owner, for attributes without a join to many entities. -/
def documentPath (a : Attribute) : List String :=
  match a.join with
  | some join => join.relation :: a.path
  | none => a.path

/-- The join to many entities, if there is one. -/
def manyJoin? (a : Attribute) : Option Join := a.join.filter (·.many)

/-- **The text of an attribute**: its path with a joined relation in brackets. -/
def text (a : Attribute) : String :=
  let path := Text.joined "." a.path
  match a.join with
  | some join => "[" ++ join.relation ++ "]." ++ path
  | none => path

end Attribute

end EntitySearch
