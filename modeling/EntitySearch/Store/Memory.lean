import EntitySearch.Document.Projection
import EntitySearch.Document.Test
import EntitySearch.Store.Basic

/-!
# The store in memory

Records are kept by entity type in the order of their first insertion. A filter is a test of every
record of a type.
-/

namespace EntitySearch

/-- **A store in memory.** -/
structure MemoryStore where
  records : NameMap (List Record) := .empty

namespace MemoryStore

/-- The store without records. -/
def empty : MemoryStore := {}

/-- The records of an entity type. -/
def recordsOf (store : MemoryStore) (entity : String) : List Record :=
  (store.records.get? entity).getD []

/-- The number of records of an entity type. -/
def size (store : MemoryStore) (entity : String) : Nat := (store.recordsOf entity).length

/-- Whether there are no records of any type. -/
def isEmpty (store : MemoryStore) : Bool := store.records.values.all List.isEmpty

/-! ### Writing -/

/-- Puts a record in the place of the one with its id, or at the end. -/
def put (record : Record) : List Record → List Record
  | [] => [record]
  | other :: rest => if other.id = record.id then record :: rest else other :: put record rest

/-- **Inserting a record**, or replacing the one of the same type and id. -/
def upsert (store : MemoryStore) (record : Record) : MemoryStore :=
  ⟨store.records.insert record.entity (put record (store.recordsOf record.entity))⟩

/-- **Removing a record**, and whether there was one. -/
def remove (store : MemoryStore) (entity id : String) : MemoryStore × Bool :=
  match store.records.get? entity with
  | none => (store, false)
  | some records =>
    let kept := records.filter fun record => record.id ≠ id
    (⟨store.records.insert entity kept⟩, kept.length ≠ records.length)

/-! ### Reading -/

/-- The records of an entity type that a filter accepts. -/
def accepted (store : MemoryStore) (entity : String) (filter : Filter Comparison) : List Record :=
  (store.recordsOf entity).filter fun record => filter.accepts record.document

/-- The value by which a record is sorted. -/
def sortKey (sort : Attribute) (record : Record) : Json :=
  (record.document.at? sort.documentPath).getD .null

/-- Whether a record may stand in front of another one. -/
def inOrder (fetch : Fetch) (a b : Record) : Bool :=
  (fetch.direction.apply ((sortKey fetch.sort a).sortOrder (sortKey fetch.sort b))).isLE

/-- **All matches in order.** Records with equal keys keep the order of their insertion. -/
def sorted (store : MemoryStore) (fetch : Fetch) (filter : Filter Comparison) : List Record :=
  (store.accepted fetch.entity filter).mergeSort (inOrder fetch)

/-- The record with the part of its document that is wanted. -/
def shown (projection : Option (List Attribute)) (record : Record) : Record :=
  match projection with
  | none => record
  | some attributes =>
    { record with
      document :=
        Projection.ofPaths (fun path => record.document.at? path)
          (attributes.map Attribute.documentPath) }

end MemoryStore

instance : Store MemoryStore where
  fetch store fetch filter :=
    .ok ((fetch.cut (store.sorted fetch filter)).map (MemoryStore.shown fetch.projection))
  count store entity filter := .ok (store.accepted entity filter).length

end EntitySearch
