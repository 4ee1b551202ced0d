import EntitySearch.Database.Evaluation
import EntitySearch.Database.Limits
import EntitySearch.Document.Projection
import EntitySearch.Store.Basic

/-!
# The table of records

A database keeps the records of all entity types in one table. A new row gets a number above those
of all rows, and a row keeps its number when its document is replaced. Documents are stored as
text, and a document that is fetched is read from its text again.
-/

namespace EntitySearch.Database

/-- **A row**: a record and the number of the row. -/
structure Row where
  number : Nat
  record : Record

/-- **A table of records.** -/
structure Table where
  rows : List Row := []

namespace Table

/-- The table without rows. -/
def empty : Table := {}

/-! ### Writing -/

/-- The number for a new row. -/
def nextNumber (table : Table) : Nat :=
  table.rows.foldl (fun highest row => max highest row.number) 0 + 1

/-- Puts a record in the row with its key, or in a new row. -/
def put (number : Nat) (record : Record) : List Row → List Row
  | [] => [⟨number, record⟩]
  | row :: rest =>
    if row.record.hasKey record.entity record.id then ⟨row.number, record⟩ :: rest
    else row :: put number record rest

/-- **Inserting a record**, or replacing the one of the same type and id. -/
def upsert (table : Table) (record : Record) : Table := ⟨put table.nextNumber record table.rows⟩

/-- **Removing a record**, and whether there was one. -/
def remove (table : Table) (entity id : String) : Table × Bool :=
  let kept := table.rows.filter fun row => !row.record.hasKey entity id
  (⟨kept⟩, kept.length < table.rows.length)

/-! ### Reading -/

/-- The rows of an entity type that a filter selects. -/
def selected (table : Table) (entity : String) (filter : Filter Condition) :
    Except DatabaseFault (List Row) :=
  (table.rows.filter fun row => row.record.entity = entity).filterM fun row =>
    selects filter row.record.document

/-- The value by which a row is sorted. -/
def sortKey (sort : Attribute) (row : Row) : Value :=
  Value.ofJson (found? sort.documentPath row.record.document)

/-- Whether a row with its sort value may stand in front of another one. Rows with equal values go
by their numbers. -/
def inOrder (direction : Direction) (a b : Value × Row) : Bool :=
  ((direction.apply (a.1.sortOrder b.1)).then (compare a.2.number b.2.number)).isLE

/-- Rows in the order of a page. -/
def sorted (fetch : Fetch) (rows : List Row) : List Row :=
  ((rows.map fun row => (sortKey fetch.sort row, row)).mergeSort (inOrder fetch.direction)).map
    Prod.snd

/-- A document as it is read from its stored text. -/
def reread (document : Json) : Json := (Json.read? document.compact).getD .null

/-- The record that is shown for a row. -/
def shown (fetch : Fetch) (row : Row) : Record :=
  let document := reread row.record.document
  match fetch.projection with
  | none => ⟨fetch.entity, row.record.id, document⟩
  | some attributes =>
    ⟨fetch.entity, row.record.id,
      Projection.ofPaths (fun path => found? path document)
        (attributes.map Attribute.documentPath)⟩

/-- **Fetching a page.** -/
def fetch (table : Table) (fetch : Fetch) (filter : Filter Condition) :
    Except DatabaseFault (List Record) := do
  checkFetch fetch filter
  let rows ← table.selected fetch.entity filter
  .ok ((fetch.cut (sorted fetch rows)).map (shown fetch))

/-- **Counting matches.** -/
def count (table : Table) (entity : String) (filter : Filter Condition) :
    Except DatabaseFault Nat := do
  checkCount entity filter
  let rows ← table.selected entity filter
  .ok rows.length

end Table

/-- The result of the database as a result of a search. -/
def asSearch {α : Type} : Except DatabaseFault α → Except SearchError α
  | .ok value => .ok value
  | .error fault => .error (.database fault)

/-- The filter over conditions for a filter over comparisons. -/
def conditions (filter : Filter Comparison) : Filter Condition := filter.map Condition.ofComparison

instance : Store Table where
  fetch table fetch filter := asSearch (table.fetch fetch (conditions filter))
  count table entity filter := asSearch (table.count entity (conditions filter))

end EntitySearch.Database
