import EntitySearch.Proofs.Database.Storage
import EntitySearch.Proofs.Outcome
import EntitySearch.Proofs.Search.Pages
import EntitySearch.Proofs.Stores.Writes

/-!
# Fetching from both stores

The memory sorts the matches of a search with a stable sort, so matches with equal keys stay in the
order of their insertion. A database sorts them by key and then by the number of the row. The rows
stand in the order of their numbers, so the two sorts are one (`mergeSort_numbered`): either way the
position in the list decides where the keys do not.

What is left is to see that both sort by the same keys, where the engine reads the sort value of a
document as documented (`Database.sortOrder_documented`), and that both find the same matches, where
the conditions of the filter decide as its tests do. Then a page of the database has the records of
the page in memory, row by row, each with its document as it is read from the stored text
(`Database.Table.fetch_after`).
-/

namespace EntitySearch

/-! ### Sorting numbered rows -/

namespace Direction

variable {direction : Direction}

theorem apply_swap (direction : Direction) (order : Ordering) :
    direction.apply order.swap = (direction.apply order).swap := by
  cases direction <;> cases order <;> rfl

variable {α β : Type} [LinearOrder β] {key : α → β} {number : α → Nat} {a b c : α}

/-- Whether two elements are in order by their keys, and by their numbers where the keys are equal.
-/
def inNumberedOrder (direction : Direction) (key : α → β) (number : α → Nat) (a b : α) : Bool :=
  ((direction.apply (compare (key a) (key b))).then (compare (number a) (number b))).isLE

/-- Elements are in order if their keys are, and in a tie their numbers. -/
theorem inNumberedOrder_iff :
    direction.inNumberedOrder key number a b ↔
      direction.inOrder (key a) (key b) ∧
        (direction.inOrder (key b) (key a) → number a ≤ number b) := by
  have swapped : direction.inOrder (key b) (key a) =
      (direction.apply (compare (key a) (key b))).swap.isLE := by
    rw [inOrder, ← apply_swap, ← Std.OrientedOrd.eq_swap]
  have numbers : (compare (number a) (number b)).isLE ↔ number a ≤ number b := Nat.isLE_compare
  rw [inNumberedOrder, swapped, inOrder]
  cases direction.apply (compare (key a) (key b)) with
  | lt => exact iff_of_true rfl ⟨rfl, fun tied => absurd tied Bool.false_ne_true⟩
  | eq => exact numbers.trans ⟨fun le => ⟨rfl, fun _ => le⟩, fun h => h.2 rfl⟩
  | gt => exact iff_of_false Bool.false_ne_true fun h => absurd h.1 Bool.false_ne_true

theorem inNumberedOrder_trans (first : direction.inNumberedOrder key number a b)
    (second : direction.inNumberedOrder key number b c) :
    direction.inNumberedOrder key number a c := by
  rw [inNumberedOrder_iff] at first second ⊢
  refine ⟨direction.inOrder_trans first.1 second.1, fun back => ?_⟩
  -- in a tie between the outer two the one between them is tied as well
  have lower : number a ≤ number b := first.2 (direction.inOrder_trans second.1 back)
  have upper : number b ≤ number c := second.2 (direction.inOrder_trans back first.1)
  exact le_trans lower upper

theorem inNumberedOrder_total (direction : Direction) (key : α → β) (number : α → Nat) (a b : α) :
    direction.inNumberedOrder key number a b || direction.inNumberedOrder key number b a := by
  rw [Bool.or_eq_true, inNumberedOrder_iff, inNumberedOrder_iff]
  by_cases forth : direction.inOrder (key a) (key b)
  · by_cases back : direction.inOrder (key b) (key a)
    · -- a tie is decided by the numbers
      rcases Nat.le_total (number a) (number b) with le | le
      · exact .inl ⟨forth, fun _ => le⟩
      · exact .inr ⟨back, fun _ => le⟩
    · exact .inl ⟨forth, fun h => absurd h back⟩
  · have back : direction.inOrder (key b) (key a) := by
      have either := direction.inOrder_total (key a) (key b)
      rw [Bool.or_eq_true] at either
      exact either.resolve_left forth
    exact .inr ⟨back, fun h => absurd h forth⟩

end Direction

/-- **Sorting by key and number is stable sorting by key**, if the list stands in the order of its
numbers. -/
theorem mergeSort_numbered {α β : Type} [LinearOrder β] (key : α → β) (number : α → Nat)
    (direction : Direction) {list : List α}
    (numbered : list.Pairwise fun a b => number a < number b) :
    list.mergeSort (direction.inNumberedOrder key number) =
      list.mergeSort fun a b => direction.inOrder (key a) (key b) := by
  let byKey : α → α → Bool := fun a b => direction.inOrder (key a) (key b)
  have sorted : StableSort key direction list (list.mergeSort byKey) :=
    stableSort_mergeSort key direction fun _ _ _ _ => rfl
  have perm := List.mergeSort_perm list (direction.inNumberedOrder key number)
  -- both lists are sorted by key and number, and no two elements have one number
  refine List.Perm.eq_of_pairwise ?_
    (List.pairwise_mergeSort (fun _ _ _ => Direction.inNumberedOrder_trans)
      (direction.inNumberedOrder_total key number) list) ?_ (perm.trans sorted.perm.symm)
  · intro a b mem mem' forth back
    rw [Direction.inNumberedOrder_iff] at forth back
    have same : number a = number b := le_antisymm (forth.2 back.1) (back.2 forth.1)
    have distinct : (list.map number).Nodup :=
      List.pairwise_map.2 (numbered.imp fun lt => Nat.ne_of_lt lt)
    exact List.inj_on_of_nodup_map distinct (perm.mem_iff.1 mem) (sorted.perm.mem_iff.1 mem') same
  · refine List.pairwise_iff_forall_sublist.2 fun {a b} pair => ?_
    have forth : byKey a b :=
      direction.inOrder_iff.2 (List.pairwise_iff_forall_sublist.1 sorted.ordered pair)
    refine Direction.inNumberedOrder_iff.2 ⟨forth, fun back => ?_⟩
    -- a tie is not touched by the sort, so the pair stands in the list as well
    have tie : key b = key a := direction.inOrder_antisymm back forth
    have tied : [a, b].filter (fun c => key c = key a) = [a, b] := by
      rw [List.filter_cons_of_pos, List.filter_cons_of_pos, List.filter_nil]
      · exact decide_eq_true tie
      · exact decide_eq_true rfl
    have inside : [a, b].Sublist list := by
      have kept := pair.filter fun c => key c = key a
      rw [tied, sorted.stable (key a)] at kept
      exact kept.trans List.filter_sublist
    exact Nat.le_of_lt (List.pairwise_iff_forall_sublist.1 numbered inside)

/-! ### Sort keys -/

namespace Database

/-- **Documented values sort as the stored values do.** -/
theorem sortOrder_documented {a b : Json} (finite : a.isFinite) (finite' : b.isFinite)
    (path : List String) :
    (Value.documented (a.at? path)).sortOrder (Value.documented (b.at? path)) =
      (DocumentTest.valueAt path a).sortOrder (DocumentTest.valueAt path b) := by
  have ordered (x : Scalar) (found : (DocumentTest.valueAt path a).scalar? = some x) :
      x.IsOrdered := Json.isOrdered_of_isFinite (Json.isFinite_getD_at? finite) found
  have ordered' (y : Scalar) (found : (DocumentTest.valueAt path b).scalar? = some y) :
      y.IsOrdered := Json.isOrdered_of_isFinite (Json.isFinite_getD_at? finite') found
  have compared := Value.order?_ofScalar ordered ordered'
  rw [Value.documented_eq, Value.documented_eq, Json.sortOrder]
  cases first : (DocumentTest.valueAt path a).scalar? with
  | none =>
    cases (DocumentTest.valueAt path b).scalar? with
    | none => rfl
    | some y => cases y <;> rfl
  | some x =>
    cases second : (DocumentTest.valueAt path b).scalar? with
    | none => cases x <;> rfl
    | some y =>
      rw [first, second] at compared
      -- scalars are never sorted by their kind alone
      have decided : (Value.ofScalar (some x)).sortOrder (Value.ofScalar (some y)) =
          ((Value.ofScalar (some x)).order? (Value.ofScalar (some y))).getD .eq := by
        cases x <;> cases y <;> rfl
      rw [decided, compared]
      rfl

/-- Whether both stores decide a document alike by a filter, and the database without a failure. -/
def DecidedAlike (filter : Filter Comparison) (document : Json) : Prop :=
  selects (conditions filter) document = .ok (filter.accepts document)

/-- **A document that both stores treat alike** in a search: both decide it alike, and the engine
reads its sort value as documented. -/
structure Alike (fetch : Fetch) (filter : Filter Comparison) (document : Json) : Prop where
  finite : document.isFinite
  decided : DecidedAlike filter document
  read : ReadsAsDocumented document fetch.sort.documentPath

namespace Table

variable {fetch : Fetch} {filter : Filter Comparison} {rows : List Row}

/-- **A table sorts as the memory does**, if its rows stand in the order of their numbers. -/
theorem map_record_sorted (numbered : rows.Pairwise fun a b => a.number < b.number)
    (finite : ∀ row ∈ rows, row.record.document.isFinite)
    (read : ∀ row ∈ rows, ReadsAsDocumented row.record.document fetch.sort.documentPath) :
    (sorted fetch rows).map Row.record =
      (rows.map Row.record).mergeSort (MemoryStore.inOrder fetch) := by
  let key (row : Row) := (MemoryStore.sortKey fetch.sort row.record).place
  have places (a : Row) (mem : a ∈ rows) (b : Row) (mem' : b ∈ rows) :
      (MemoryStore.sortKey fetch.sort a.record).sortOrder
        (MemoryStore.sortKey fetch.sort b.record) = compare (key a) (key b) :=
    Json.sortOrder_eq_compare (Json.isFinite_getD_at? (finite a mem))
      (Json.isFinite_getD_at? (finite b mem'))
  -- the values that the engine sorts by are in the order of the keys
  have byEngine (a : Row) (mem : a ∈ rows) (b : Row) (mem' : b ∈ rows) :
      fetch.direction.inNumberedOrder key Row.number a b =
        inOrder fetch.direction (sortKey fetch.sort a, a) (sortKey fetch.sort b, b) := by
    have documented := sortOrder_documented (finite a mem) (finite b mem') fetch.sort.documentPath
    rw [← read a mem, ← read b mem'] at documented
    rw [Direction.inNumberedOrder, ← places a mem b mem', inOrder, sortKey, sortKey, documented]
    rfl
  have byMemory (a : Row) (mem : a ∈ rows) (b : Row) (mem' : b ∈ rows) :
      fetch.direction.inOrder (key a) (key b) = MemoryStore.inOrder fetch a.record b.record := by
    rw [Direction.inOrder, ← places a mem b mem']
    rfl
  have engine : sorted fetch rows =
      rows.mergeSort (fetch.direction.inNumberedOrder key Row.number) := by
    rw [sorted, ← List.map_mergeSort byEngine, List.map_map]
    exact List.map_id' _
  rw [engine, mergeSort_numbered key Row.number fetch.direction numbered]
  exact List.map_mergeSort byMemory

/-! ### Pages -/

/-- The record that a database shows for a record: the wanted part of its document, as it is read
from its text. -/
def shownRecord (fetch : Fetch) (record : Record) : Record := shown fetch ⟨0, record⟩

/-- **A table selects what the memory accepts**, in the same order. -/
theorem selected_after {history : List Write} {entity : String}
    (decided : ∀ record ∈ (MemoryStore.after history).recordsOf entity,
      DecidedAlike filter record.document) :
    ∃ rows, (Table.after history).selected entity (conditions filter) = .ok rows ∧
      rows.map Row.record = (MemoryStore.after history).accepted entity filter ∧
      rows.Pairwise fun a b => a.number < b.number := by
  -- the rows of the type are the records of the memory, with their numbers
  let typed := (Table.after history).rows.filter fun row => row.record.entity = entity
  have records : typed.map Row.record = (MemoryStore.after history).recordsOf entity :=
    recordsOf_after history entity
  have each (row : Row) (mem : row ∈ typed) : DecidedAlike filter row.record.document :=
    decided row.record (records ▸ List.mem_map_of_mem mem)
  refine ⟨typed.filter fun row => filter.accepts row.record.document,
    Outcome.filterM_eq_ok each, ?_, ?_⟩
  · rw [MemoryStore.accepted, ← records, List.filter_map]
    rfl
  · exact (inOrder_after history).sublist (List.filter_sublist.trans List.filter_sublist)

/-- **A page of a database** has the records of the page in memory, row by row, each as it is read
from its text. -/
theorem fetch_after {history : List Write}
    (alike : ∀ record ∈ (MemoryStore.after history).recordsOf fetch.entity,
      Alike fetch filter record.document)
    (allowed : checkFetch fetch (conditions filter) = .ok ()) :
    (Table.after history).fetch fetch (conditions filter) =
      .ok ((fetch.cut ((MemoryStore.after history).sorted fetch filter)).map
        (shownRecord fetch)) := by
  obtain ⟨rows, selected, records, numbered⟩ :=
    selected_after fun record mem => (alike record mem).decided
  -- selected rows are rows of the memory, of which the agreement is assumed
  have each (row : Row) (mem : row ∈ rows) : Alike fetch filter row.record.document := by
    have accepted : row.record ∈ (MemoryStore.after history).accepted fetch.entity filter :=
      records ▸ List.mem_map_of_mem mem
    exact alike row.record (List.mem_filter.1 accepted).1
  have order := map_record_sorted numbered (fun row mem => (each row mem).finite)
    fun row mem => (each row mem).read
  rw [records] at order
  rw [Table.fetch, allowed, selected]
  change Except.ok ((fetch.cut (sorted fetch rows)).map (shown fetch)) = _
  rw [MemoryStore.sorted, ← order, Fetch.cut, Fetch.cut, ← List.map_drop, ← List.map_take,
    List.map_map]
  rfl

/-- **A database counts as many matches** as the memory does. -/
theorem count_after {history : List Write} {entity : String}
    (decided : ∀ record ∈ (MemoryStore.after history).recordsOf entity,
      DecidedAlike filter record.document)
    (allowed : checkCount entity (conditions filter) = .ok ()) :
    (Table.after history).count entity (conditions filter) =
      .ok ((MemoryStore.after history).accepted entity filter).length := by
  obtain ⟨rows, selected, records, _⟩ := selected_after decided
  rw [Table.count, allowed, selected, ← records, List.length_map]
  rfl

/-- **The parameters of a statement** cut the same page. They are cut themselves where they are too
great, but no list of rows is that long. -/
theorem cut_parameters {α : Type} (fetch : Fetch) {list : List α}
    (few : list.length ≤ maxParameter) :
    (list.drop (min fetch.offset maxParameter)).take (min fetch.limit maxParameter) =
      fetch.cut list := by
  -- a bound that is cut is beyond the end of the list anyway
  have dropped : list.drop (min fetch.offset maxParameter) = list.drop fetch.offset := by
    rcases Nat.le_total fetch.offset maxParameter with le | le
    · rw [Nat.min_eq_left le]
    · rw [Nat.min_eq_right le, List.drop_of_length_le few, List.drop_of_length_le (few.trans le)]
  have rest : (list.drop fetch.offset).length ≤ maxParameter := by
    rw [List.length_drop]
    exact (Nat.sub_le _ _).trans few
  rw [dropped, Fetch.cut]
  rcases Nat.le_total fetch.limit maxParameter with le | le
  · rw [Nat.min_eq_left le]
  · rw [Nat.min_eq_right le, List.take_of_length_le rest, List.take_of_length_le (rest.trans le)]

/-- **A loadable document is shown** as the memory would show it with its doubles as they are
read. -/
theorem shownRecord_eq {record : Record} (typed : record.entity = fetch.entity)
    (loadable : record.document.isLoadable) :
    shownRecord fetch record = MemoryStore.shown fetch.projection record.asRead := by
  obtain ⟨entity, id, document⟩ := record
  obtain rfl : entity = fetch.entity := typed
  have found : (fun path => found? path (reread document)) = fun path => document.asRead.at? path :=
    funext (found?_reread loadable)
  have whole : reread document = document.asRead := reread_eq loadable
  rw [shownRecord, shown, MemoryStore.shown.eq_def]
  dsimp only
  rw [found, whole]
  cases fetch.projection with
  | none => rfl
  | some attributes => rfl

end Table

end Database

end EntitySearch
