import EntitySearch.Comparison
import EntitySearch.Document.Record
import EntitySearch.Filter.Basic

/-!
# Stores

A store holds records and answers two questions about a filter of comparisons: which records of an
entity type match, sorted and cut to a page, and how many do.
-/

namespace EntitySearch

/-- **What to fetch**: matches sorted by an attribute, cut to a page, with whole documents or the
projections to some attributes. -/
structure Fetch where
  entity : String
  sort : Attribute
  direction : Direction
  offset : Nat
  limit : Nat
  projection : Option (List Attribute)

/-- **A store of records.** -/
class Store (σ : Type) where
  fetch : σ → Fetch → Filter Comparison → Except SearchError (List Record)
  count : σ → String → Filter Comparison → Except SearchError Nat

/-- An order in a direction. -/
def Direction.apply (direction : Direction) (order : Ordering) : Ordering :=
  match direction with
  | ascending => order
  | descending => order.swap

/-- The part of a list that belongs on a page. -/
def Fetch.cut {α : Type} (fetch : Fetch) (rows : List α) : List α :=
  (rows.drop fetch.offset).take fetch.limit

end EntitySearch
