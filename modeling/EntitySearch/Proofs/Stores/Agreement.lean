import EntitySearch.Proofs.Database.Filters
import EntitySearch.Proofs.Stores.Fetching

/-!
# Where both stores agree

The store in memory and the table of a database are written to by the same history. Then they hold
the same records in the same order, they give the same answers, and a search finds the same matches
in both (`stores_agree`). A page has the same rows in the same order, and each of them shows the
document that was stored, with its doubles as they are read from its text.

So the pages are equal where no double changes on that way. A double does change if its text is read
as a neighbour: the database then shows another number than the memory.

A search has to decide every document alike in both stores. Ordinary comparisons do that
(`Comparison.IsOrdinary`), so filters made of them need nothing else.
-/

namespace EntitySearch

open Database

/-! ### Ordinary comparisons -/

/-- **An ordinary comparison** looks at the document itself, has no pattern and no NaN, and has a
list where it needs one. -/
structure Comparison.IsOrdinary (comparison : Comparison) : Prop where
  single : comparison.target.manyJoin? = none
  plain : comparison.operation.isPattern = false
  listed : comparison.operation.isMembership → ∃ items, comparison.value = .list items
  number : comparison.value.hasNaN = false

/-- **Both stores decide an ordinary comparison alike** for every loadable document. -/
theorem Comparison.IsOrdinary.holds_eq {comparison : Comparison} (ordinary : comparison.IsOrdinary)
    {document : Json} (loadable : document.isLoadable) :
    (Condition.ofComparison comparison).holds document =
      .ok ((DocumentTest.ofComparison comparison).passes document) := by
  obtain ⟨target, operation, value⟩ := comparison
  have finite := Json.isFinite_of_allLegible document (allLegible_of_loadable loadable)
  have read := readsAsDocumented loadable target.documentPath
  have decided := isTrueAt_ofComparison finite ordinary.single ordinary.plain ordinary.listed
  rw [TypedValue.bound_eq ordinary.number] at decided
  rw [holds_ofComparison ordinary.single ordinary.plain read, decided]

/-! ### Both stores after a history -/

/-- **What both stores have in common** after a history of writes. -/
structure Agree (history : List Write) (store : MemoryStore) (table : Table) : Prop where
  /-- Both hold what the history leaves of an entity type, in the same order. -/
  holds : ∀ entity, Holds history entity (store.recordsOf entity) ∧
    table.recordsOf entity = store.recordsOf entity
  /-- Both tell of the next removal whether the record was held. -/
  answers : ∀ entity id,
    (store.remove entity id).2 = (held entity id history).isSome ∧
      (table.remove entity id).2 = (held entity id history).isSome
  /-- The next write leaves the records of other entity types as they are. -/
  others : ∀ (write : Write) entity, write.concerns entity = false →
    (write.onMemory store).1.recordsOf entity = store.recordsOf entity ∧
      (write.onTable table).1.recordsOf entity = table.recordsOf entity
  /-- A page of loadable documents has the rows of the page in memory, each with its doubles as they
  are read. It is the page that the parameters of the statement ask for. -/
  page : ∀ fetch filter, checkFetch fetch (conditions filter) = .ok () →
    (∀ record ∈ store.recordsOf fetch.entity,
      record.document.isLoadable ∧ DecidedAlike filter record.document) →
      Store.fetch table fetch filter =
          .ok ((fetch.cut (store.sorted fetch filter)).map fun record =>
            MemoryStore.shown fetch.projection record.asRead) ∧
        ((store.sorted fetch filter).length ≤ maxParameter →
          ((store.sorted fetch filter).drop (min fetch.offset maxParameter)).take
            (min fetch.limit maxParameter) = fetch.cut (store.sorted fetch filter))
  /-- The table counts as many matches as the memory. -/
  total : ∀ entity filter, checkCount entity (conditions filter) = .ok () →
    (∀ record ∈ store.recordsOf entity, DecidedAlike filter record.document) →
      Store.count table entity filter = Store.count store entity filter
  /-- If all documents are storable, the pages are equal. -/
  same : ∀ fetch filter, checkFetch fetch (conditions filter) = .ok () →
    (∀ record ∈ store.recordsOf fetch.entity,
      record.document.isStorable ∧ DecidedAlike filter record.document) →
      Store.fetch table fetch filter = Store.fetch store fetch filter
  /-- The pages and the counts of a search by ordinary comparisons are equal. -/
  ordinary : ∀ fetch filter, checkFetch fetch (conditions filter) = .ok () →
    checkCount fetch.entity (conditions filter) = .ok () →
      (∀ comparison ∈ filter.leaves, comparison.IsOrdinary) →
        (∀ record ∈ store.recordsOf fetch.entity, record.document.isStorable) →
          Store.fetch table fetch filter = Store.fetch store fetch filter ∧
            Store.count table fetch.entity filter = Store.count store fetch.entity filter

section Agreement

variable {history : List Write} {fetch : Fetch} {filter : Filter Comparison} {entity : String}

/-- A database counts as the memory does, as soon as it decides as the memory does. -/
theorem count_eq
    (decided : ∀ record ∈ (MemoryStore.after history).recordsOf entity,
      DecidedAlike filter record.document)
    (allowed : checkCount entity (conditions filter) = .ok ()) :
    Store.count (Table.after history) entity filter =
      Store.count (MemoryStore.after history) entity filter := by
  have counted := Table.count_after decided allowed
  exact congrArg asSearch counted

/-- What is on a page is held under the entity type that was asked for. -/
theorem mem_recordsOf_of_mem_page {record : Record}
    (mem : record ∈ fetch.cut ((MemoryStore.after history).sorted fetch filter)) :
    record ∈ (MemoryStore.after history).recordsOf fetch.entity ∧ record.entity = fetch.entity := by
  have sorted : record ∈ (MemoryStore.after history).sorted fetch filter :=
    List.mem_of_mem_drop (List.mem_of_mem_take mem)
  have accepted : record ∈ (MemoryStore.after history).accepted fetch.entity filter :=
    (List.mergeSort_perm _ _).mem_iff.1 sorted
  have inside : record ∈ (MemoryStore.after history).recordsOf fetch.entity :=
    (List.mem_filter.1 accepted).1
  have found := ((MemoryStore.holds_after history fetch.entity).mem_iff record).1 inside
  exact ⟨inside, (hasKey_of_held found).1⟩

/-- **A page of loadable documents** is that of the memory, with doubles as they are read. -/
theorem fetch_loadable
    (kept : ∀ record ∈ (MemoryStore.after history).recordsOf fetch.entity,
      record.document.isLoadable ∧ DecidedAlike filter record.document)
    (allowed : checkFetch fetch (conditions filter) = .ok ()) :
    Store.fetch (Table.after history) fetch filter =
      .ok ((fetch.cut ((MemoryStore.after history).sorted fetch filter)).map fun record =>
        MemoryStore.shown fetch.projection record.asRead) := by
  have alike (record : Record)
      (mem : record ∈ (MemoryStore.after history).recordsOf fetch.entity) :
      Alike fetch filter record.document := by
    obtain ⟨loadable, decided⟩ := kept record mem
    exact ⟨Json.isFinite_of_allLegible record.document (allLegible_of_loadable loadable), decided,
      readsAsDocumented loadable fetch.sort.documentPath⟩
  have page := Table.fetch_after alike allowed
  -- row by row the records are shown as they are read back
  have shown (record : Record)
      (mem : record ∈ fetch.cut ((MemoryStore.after history).sorted fetch filter)) :
      Table.shownRecord fetch record = MemoryStore.shown fetch.projection record.asRead := by
    obtain ⟨inside, typed⟩ := mem_recordsOf_of_mem_page mem
    exact Table.shownRecord_eq typed (kept record inside).1
  rw [List.map_congr_left shown] at page
  exact congrArg asSearch page

/-- **A page of storable documents** is that of the memory. -/
theorem fetch_storable
    (kept : ∀ record ∈ (MemoryStore.after history).recordsOf fetch.entity,
      record.document.isStorable ∧ DecidedAlike filter record.document)
    (allowed : checkFetch fetch (conditions filter) = .ok ()) :
    Store.fetch (Table.after history) fetch filter =
      Store.fetch (MemoryStore.after history) fetch filter := by
  have loadable (record : Record)
      (mem : record ∈ (MemoryStore.after history).recordsOf fetch.entity) :
      record.document.isLoadable ∧ DecidedAlike filter record.document :=
    ⟨(Bool.and_eq_true_iff.1 (kept record mem).1).1, (kept record mem).2⟩
  -- documents that read back as they are have nothing to be replaced
  have shown (record : Record)
      (mem : record ∈ fetch.cut ((MemoryStore.after history).sorted fetch filter)) :
      MemoryStore.shown fetch.projection record.asRead =
        MemoryStore.shown fetch.projection record := by
    have stable := (kept record (mem_recordsOf_of_mem_page mem).1).1
    have same : record.document.asRead = record.document :=
      Json.asRead_eq_self record.document (Bool.and_eq_true_iff.1 stable).2
    rw [Record.asRead, same]
  rw [fetch_loadable loadable allowed, List.map_congr_left shown]
  rfl

/-- **Both stores agree** after any history of writes. -/
theorem stores_agree (history : List Write) :
    Agree history (MemoryStore.after history) (Table.after history) where
  holds entity := ⟨MemoryStore.holds_after history entity, recordsOf_after history entity⟩
  answers entity id := by
    have memory := MemoryStore.remove_answer_held history entity id
    have same := Option.some.inj (answer_eq history (.remove entity id))
    exact ⟨memory, same.trans memory⟩
  others write entity other :=
    ⟨MemoryStore.recordsOf_onMemory _ other, Table.recordsOf_onTable _ other⟩
  page fetch filter allowed kept := ⟨fetch_loadable kept allowed, Table.cut_parameters fetch⟩
  total entity filter allowed decided := count_eq decided allowed
  same fetch filter allowed kept := fetch_storable kept allowed
  ordinary fetch filter allowed counted comparisons storable := by
    have decided (record : Record)
        (mem : record ∈ (MemoryStore.after history).recordsOf fetch.entity) :
        DecidedAlike filter record.document := by
      have loadable := (Bool.and_eq_true_iff.1 (storable record mem)).1
      exact selects_conditions fun comparison leaf =>
        (comparisons comparison leaf).holds_eq loadable
    exact ⟨fetch_storable (fun record mem => ⟨storable record mem, decided record mem⟩) allowed,
      count_eq decided counted⟩

end Agreement

/-- A task with a rank. -/
def task (id : String) (rank : Int) : Record :=
  ⟨"Task", id, .object [("id", .text id), ("rank", .int rank)]⟩

/-- A sample with a size. -/
def sample (size : Double) : Record :=
  ⟨"Sample", "s", .object [("id", .text "s"), ("size", .real size)]⟩

/-- A double with the text `6.0000000000000005e100`. -/
def storedSize : Double := .finite false (7721336384202044 * Nat.pow 2 1356)

/-- The double that is read from this text, the next greater one. -/
def fetchedSize : Double := .finite false (7721336384202045 * Nat.pow 2 1356)

/-- Tasks of which one is removed and inserted again, and a sample. The last write comes first. -/
def shuffled : List Write :=
  [.upsert (sample storedSize), .upsert (task "a" 2), .remove "Task" "a", .upsert (task "c" 2),
    .upsert (task "b" 1), .upsert (task "a" 1)]

/-- The rank of a task. -/
def taskRank : Attribute := ⟨"Task", none, ["rank"], ⟨"rank", .integer⟩⟩

/-- The two tasks of the greatest ranks. -/
def greatest : Fetch := ⟨"Task", taskRank, .descending, 0, 2, none⟩

/-- Tasks with a rank above zero. -/
def ranked : Filter Comparison := .leaf ⟨taskRank, .greater, .integer 0⟩

/-- All samples. -/
def samples : Fetch := ⟨"Sample", ⟨"Sample", none, ["id"], ⟨"id", .text⟩⟩, .ascending, 0, 50, none⟩

/-- The page of the tasks is the same in both stores, with the task that was inserted again behind
the one of the same rank. The sample has another size when it comes out of the database. -/
theorem stores_agree_shuffled :
    (checkFetch greatest (conditions ranked) = .ok () ∧
      Store.fetch (MemoryStore.after shuffled) greatest ranked = .ok [task "c" 2, task "a" 2] ∧
      Store.fetch (Table.after shuffled) greatest ranked = .ok [task "c" 2, task "a" 2] ∧
      Store.count (Table.after shuffled) "Task" ranked = .ok 3) ∧
    ((Table.after shuffled).remove "Task" "a").2 = true ∧
    Store.fetch (MemoryStore.after shuffled) samples .all = .ok [sample storedSize] ∧
    Store.fetch (Table.after shuffled) samples .all = .ok [sample fetchedSize] ∧
    fetchedSize ≠ storedSize := by
  have agree := stores_agree shuffled
  have allowed : checkFetch greatest (conditions ranked) = .ok () := rfl
  have counted : checkCount "Task" (conditions ranked) = .ok () := rfl
  have comparisons : ∀ comparison ∈ ranked.leaves, comparison.IsOrdinary := by
    intro comparison mem
    obtain rfl := List.mem_singleton.1 mem
    exact ⟨rfl, rfl, nofun, rfl⟩
  have tasks : (MemoryStore.after shuffled).recordsOf "Task" =
      [task "b" 1, task "c" 2, task "a" 2] := rfl
  have storable : ∀ record ∈ (MemoryStore.after shuffled).recordsOf "Task",
      record.document.isStorable := by
    intro record mem
    rw [tasks] at mem
    simp only [List.mem_cons, List.not_mem_nil, or_false] at mem
    rcases mem with rfl | rfl | rfl <;> rfl
  obtain ⟨page, total⟩ := agree.ordinary greatest ranked allowed counted comparisons storable
  have accepted : (MemoryStore.after shuffled).accepted "Task" ranked =
      [task "b" 1, task "c" 2, task "a" 2] := by
    rw [MemoryStore.accepted, tasks]
    rfl
  have memory : Store.fetch (MemoryStore.after shuffled) greatest ranked =
      .ok [task "c" 2, task "a" 2] := by
    change Except.ok ((greatest.cut (((MemoryStore.after shuffled).accepted "Task" ranked).mergeSort
      (MemoryStore.inOrder greatest))).map (MemoryStore.shown none)) = _
    rw [accepted]
    cbv
  have number : Store.count (MemoryStore.after shuffled) "Task" ranked = .ok 3 :=
    congrArg (fun records => Except.ok (List.length records)) accepted
  have removed : ((Table.after shuffled).remove "Task" "a").2 = true :=
    (agree.answers "Task" "a").2
  -- the sample alone is touched by the way through its text
  have read : storedSize.readBack? = some fetchedSize := by decide +kernel
  have engine : storedSize.reread = storedSize := by decide +kernel
  have only : (MemoryStore.after shuffled).recordsOf "Sample" = [sample storedSize] := rfl
  have loadable : ∀ record ∈ (MemoryStore.after shuffled).recordsOf "Sample",
      record.document.isLoadable ∧ DecidedAlike .all record.document := by
    intro record mem
    rw [only] at mem
    obtain rfl := List.mem_singleton.1 mem
    have legible : Json.isLegible (.real storedSize) := by
      rw [Json.isLegible, read]
      rfl
    have kept : Json.engineReads (.real storedSize) := by
      rw [Json.engineReads, engine]
      exact decide_eq_true rfl
    refine ⟨?_, rfl⟩
    simp only [sample, Json.isLoadable, Json.each, Json.eachMember, legible, kept]
    rfl
  have alone : (MemoryStore.after shuffled).sorted samples .all = [sample storedSize] := by
    change (((MemoryStore.after shuffled).recordsOf "Sample").filter _).mergeSort _ = _
    rw [only]
    exact List.mergeSort_singleton _
  obtain ⟨shown, _⟩ := agree.page samples .all rfl loadable
  have whole : Store.fetch (MemoryStore.after shuffled) samples .all = .ok [sample storedSize] := by
    change Except.ok ((samples.cut ((MemoryStore.after shuffled).sorted samples .all)).map
      (MemoryStore.shown none)) = _
    rw [alone]
    rfl
  have changed : (sample storedSize).asRead = sample fetchedSize := by
    simp [sample, Record.asRead, Json.asRead, Json.membersAsRead, read]
  have reread : Store.fetch (Table.after shuffled) samples .all = .ok [sample fetchedSize] := by
    rw [shown, alone, ← changed]
    rfl
  exact ⟨⟨allowed, memory, page.trans memory, total.trans number⟩, removed, whole, reread,
    by decide +kernel⟩

end EntitySearch
