import EntitySearch.Database.Table
import EntitySearch.Store.Memory
import Mathlib

/-!
# Writes to a store

A store is written to by inserting records, removing them and clearing all of them. The memory keeps
a list of records for each entity type and changes it in place. A database keeps the records of all
types in the rows of one table, and knows the order of their insertion by the numbers of the rows.
After any history of writes both hold the same records in the same order (`recordsOf_after`), and
both answer the next removal alike (`answer_eq`).

What they hold is said on the history alone. A record is held with the data of the last insertion
since which its key was not removed (`held`), and the records of a type stand in the order of the
first insertions since their last removals (`since`). `holds_after` puts this together as one
description, `Holds`, that leaves a store no choice.

A history is a list of writes with the last one in front, so every statement on it is an induction
over what came before the last write.
-/

namespace EntitySearch

/-- **A write to a store.** -/
inductive Write where
  | upsert (record : Record)
  | remove (entity id : String)
  | clear

namespace Write

/-- Whether a write can change the records of an entity type. -/
def concerns (entity : String) : Write → Bool
  | upsert record => record.entity == entity
  | remove other _ => other == entity
  | clear => true

/-- What a write does to a store in memory, and the answer that a removal gives. -/
def onMemory (store : MemoryStore) : Write → MemoryStore × Option Bool
  | upsert record => (store.upsert record, none)
  | remove entity id => ((store.remove entity id).1, some (store.remove entity id).2)
  | clear => (.empty, none)

/-- What a write does to a table, and the answer that a removal gives. -/
def onTable (table : Database.Table) : Write → Database.Table × Option Bool
  | upsert record => (table.upsert record, none)
  | remove entity id => ((table.remove entity id).1, some (table.remove entity id).2)
  | clear => (.empty, none)

end Write

/-! ### What a history leaves -/

section History

variable (entity id : String)

/-- **The record that is held** of an entity type and an id after a history: that of the last
insertion, if nothing has removed it since. -/
def held : List Write → Option Record
  | [] => none
  | .upsert record :: earlier => if record.hasKey entity id then some record else held earlier
  | .remove other name :: earlier =>
    if other = entity ∧ name = id then none else held earlier
  | .clear :: _ => none

/-- **Since when a record is held**: how many writes came before the first insertion since its last
removal. -/
def since : List Write → Nat
  | [] => 0
  | .upsert record :: earlier =>
    if record.hasKey entity id ∧ held entity id earlier = none then earlier.length
    else since earlier
  | _ :: earlier => since earlier

end History

/-- **What a store holds of an entity type** after a history: every record that is held, each id
once, in the order of the first insertions since the last removals. -/
structure Holds (history : List Write) (entity : String) (records : List Record) : Prop where
  distinct : (records.map Record.id).Nodup
  mem_iff : ∀ record, record ∈ records ↔ held entity record.id history = some record
  inOrder : (records.map Record.id).Pairwise fun a b =>
    since entity a history < since entity b history

/-! ### Keys -/

namespace Record

variable {record : Record} {entity id : String}

theorem hasKey_iff : record.hasKey entity id ↔ record.entity = entity ∧ record.id = id := by
  rw [hasKey, Bool.and_eq_true, beq_iff_eq, beq_iff_eq]

/-- Among the records of a type the id is the key. -/
theorem hasKey_of_entity (same : record.entity = entity) :
    record.hasKey entity id = decide (record.id = id) := by
  rw [Bool.eq_iff_iff, hasKey_iff, decide_eq_true_iff]
  exact and_iff_right same

/-- A record of another type has another key. -/
theorem hasKey_of_ne (other : record.entity ≠ entity) : record.hasKey entity id = false := by
  rw [Bool.eq_false_iff, Ne, hasKey_iff]
  exact fun key => other key.1

end Record

/-! ### The store in memory -/

namespace MemoryStore

variable {store : MemoryStore} {record : Record} {records : List Record}

/-- Inserting a record keeps the ids as they stand, or puts a new one at the end. -/
theorem map_id_put (record : Record) (records : List Record) :
    (put record records).map Record.id =
      if record.id ∈ records.map Record.id then records.map Record.id
      else records.map Record.id ++ [record.id] := by
  induction records with
  | nil => rfl
  | cons other rest ih =>
    rw [put]
    -- the record takes the place of the first one with its id, or goes on to the rest
    by_cases same : other.id = record.id
    · rw [if_pos same, List.map_cons, List.map_cons, same, if_pos List.mem_cons_self]
    · have elsewhere :
          record.id ∈ (other :: rest).map Record.id ↔ record.id ∈ rest.map Record.id := by
        rw [List.map_cons, List.mem_cons, or_iff_right (Ne.symm same)]
      rw [if_neg same, List.map_cons, ih]
      by_cases old : record.id ∈ rest.map Record.id
      · rw [if_pos old, if_pos (elsewhere.2 old), List.map_cons]
      · rw [if_neg old, if_neg (mt elsewhere.1 old), List.map_cons, List.cons_append]

/-- After inserting a record it is there, and the others are. -/
theorem mem_put (distinct : (records.map Record.id).Nodup) {found : Record} :
    found ∈ put record records ↔ found = record ∨ found ∈ records ∧ found.id ≠ record.id := by
  induction records with
  | nil =>
    rw [put, List.mem_singleton]
    exact ⟨.inl, fun h => h.resolve_right fun none => absurd none.1 List.not_mem_nil⟩
  | cons other rest ih =>
    obtain ⟨missing, distinct⟩ := List.nodup_cons.1 distinct
    rw [put]
    by_cases same : other.id = record.id
    · -- the record that is replaced is the only one with its id
      have others (mem : found ∈ rest) : found.id ≠ record.id := fun id =>
        missing (same ▸ id ▸ List.mem_map_of_mem mem)
      rw [if_pos same, List.mem_cons, List.mem_cons]
      constructor
      · rintro (rfl | mem)
        · exact .inl rfl
        · exact .inr ⟨.inr mem, others mem⟩
      · rintro (rfl | ⟨rfl | mem, id⟩)
        · exact .inl rfl
        · exact absurd same id
        · exact .inr mem
    · rw [if_neg same, List.mem_cons, List.mem_cons, ih distinct]
      constructor
      · rintro (rfl | rfl | ⟨mem, id⟩)
        · exact .inr ⟨.inl rfl, same⟩
        · exact .inl rfl
        · exact .inr ⟨.inr mem, id⟩
      · rintro (rfl | ⟨rfl | mem, id⟩)
        · exact .inr (.inl rfl)
        · exact .inl rfl
        · exact .inr (.inr ⟨mem, id⟩)

theorem recordsOf_upsert (store : MemoryStore) (record : Record) (entity : String) :
    (store.upsert record).recordsOf entity =
      if record.entity = entity then put record (store.recordsOf entity)
      else store.recordsOf entity := by
  rw [upsert, recordsOf, NameMap.get?_insert]
  split
  · next same =>
    rw [same]
    rfl
  · rfl

theorem recordsOf_remove (store : MemoryStore) (other id entity : String) :
    (store.remove other id).1.recordsOf entity =
      if other = entity then (store.recordsOf entity).filter fun record => record.id ≠ id
      else store.recordsOf entity := by
  unfold remove
  split
  · next missing =>
    -- a type without a list has no records that could be removed
    split
    · next same =>
      have nothing : store.recordsOf entity = [] := by
        rw [recordsOf, ← same, missing, Option.getD_none]
      rw [nothing, List.filter_nil]
    · rfl
  · next records found =>
    rw [recordsOf, NameMap.get?_insert]
    split
    · next same =>
      have records : store.recordsOf entity = records := by
        rw [recordsOf, ← same, found, Option.getD_some]
      rw [records, Option.getD_some]
    · rfl

/-- A removal tells whether a record of the id was there. -/
theorem remove_answer (store : MemoryStore) (entity id : String) :
    (store.remove entity id).2 = (store.recordsOf entity).any fun record => record.id = id := by
  unfold remove
  split
  · next missing =>
    rw [recordsOf, missing]
    rfl
  · next records found =>
    rw [recordsOf, found, Option.getD_some, Bool.eq_iff_iff, decide_eq_true_iff, Ne,
      List.length_filter_eq_length_iff, List.any_eq_true]
    simp only [not_forall, decide_eq_true_eq, not_not, exists_prop]

/-- The store that a history leaves. -/
def after : List Write → MemoryStore
  | [] => .empty
  | write :: earlier => (write.onMemory (after earlier)).1

/-- **A write leaves the records of other types as they are.** -/
theorem recordsOf_onMemory (store : MemoryStore) {write : Write} {entity : String}
    (other : write.concerns entity = false) :
    (write.onMemory store).1.recordsOf entity = store.recordsOf entity := by
  cases write with
  | upsert record =>
    exact (recordsOf_upsert store record entity).trans (if_neg (beq_eq_false_iff_ne.1 other))
  | remove name id =>
    exact (recordsOf_remove store name id entity).trans (if_neg (beq_eq_false_iff_ne.1 other))
  | clear => cases other

end MemoryStore

/-! ### The history in memory -/

section Held

variable {entity id : String} {history : List Write}

/-- What is held has the key that is asked for. -/
theorem hasKey_of_held {record : Record} (found : held entity id history = some record) :
    record.entity = entity ∧ record.id = id := by
  induction history with
  | nil => cases found
  | cons write earlier ih =>
    cases write with
    | upsert other =>
      -- the record with the key of the last insertion is that one, and any other is from before
      rw [held] at found
      split at found
      · next key =>
        obtain rfl := Option.some.inj found
        exact Record.hasKey_iff.1 key
      · exact ih found
    | remove other name =>
      rw [held] at found
      split at found
      · cases found
      · exact ih found
    | clear => cases found

/-- What is held has been inserted as it is. -/
theorem upsert_mem_of_held {record : Record} (found : held entity id history = some record) :
    Write.upsert record ∈ history := by
  induction history with
  | nil => cases found
  | cons write earlier ih =>
    cases write with
    | upsert other =>
      rw [held] at found
      split at found
      · obtain rfl := Option.some.inj found
        exact List.mem_cons_self
      · exact List.mem_cons_of_mem _ (ih found)
    | remove other name =>
      rw [held] at found
      split at found
      · cases found
      · exact List.mem_cons_of_mem _ (ih found)
    | clear => cases found

/-- What is held has been inserted by one of the writes. -/
theorem since_lt {record : Record} (found : held entity id history = some record) :
    since entity id history < history.length := by
  induction history generalizing record with
  | nil => cases found
  | cons write earlier ih =>
    rw [List.length_cons]
    cases write with
    | upsert other =>
      rw [held] at found
      rw [since]
      split
      · exact Nat.lt_succ_self _
      · next older =>
        -- a record that replaces another one is held since that one was inserted
        split at found
        · next key =>
          obtain ⟨record, before⟩ := Option.ne_none_iff_exists'.1 fun none => older ⟨key, none⟩
          exact Nat.lt_succ_of_lt (ih before)
        · exact Nat.lt_succ_of_lt (ih found)
    | remove other name =>
      rw [held] at found
      split at found
      · cases found
      · exact Nat.lt_succ_of_lt (ih found)
    | clear => cases found

end Held

namespace Holds

variable {history : List Write} {entity : String} {records : List Record}

/-- Among records that are held, one of an id is held exactly when the id is. -/
theorem mem_map_id_iff (holds : Holds history entity records) {id : String} :
    id ∈ records.map Record.id ↔ held entity id history ≠ none := by
  rw [List.mem_map, Option.ne_none_iff_exists']
  constructor
  · rintro ⟨record, mem, rfl⟩
    exact ⟨record, (holds.mem_iff record).1 mem⟩
  · rintro ⟨record, found⟩
    obtain rfl := (hasKey_of_held found).2
    exact ⟨record, (holds.mem_iff record).2 found, rfl⟩

/-- Nothing is held after clearing. -/
theorem clear (history : List Write) (entity : String) : Holds (.clear :: history) entity [] where
  distinct := List.nodup_nil
  mem_iff _ := iff_of_false List.not_mem_nil nofun
  inOrder := List.Pairwise.nil

/-- **A write keeps what is held of other types.** -/
theorem of_other (holds : Holds history entity records) {write : Write}
    (other : write.concerns entity = false) : Holds (write :: history) entity records := by
  -- a write to another type counts for no id of this one
  have same (id : String) : held entity id (write :: history) = held entity id history ∧
      since entity id (write :: history) = since entity id history := by
    cases write with
    | upsert record =>
      have key : record.hasKey entity id = false :=
        Record.hasKey_of_ne (beq_eq_false_iff_ne.1 other)
      rw [held, since, key]
      exact ⟨rfl, rfl⟩
    | remove name _ => exact ⟨if_neg fun key => beq_eq_false_iff_ne.1 other key.1, rfl⟩
    | clear => cases other
  refine ⟨holds.distinct, fun record => ?_, ?_⟩
  · rw [(same record.id).1]
    exact holds.mem_iff record
  · simp only [(same _).2]
    exact holds.inOrder

/-- **Inserting a record** puts it in its place, or at the end if its id is new. -/
theorem upsert (holds : Holds history entity records) {record : Record}
    (typed : record.entity = entity) :
    Holds (.upsert record :: history) entity (MemoryStore.put record records) := by
  have key (id : String) : record.hasKey entity id ↔ record.id = id := by
    rw [Record.hasKey_of_entity typed, decide_eq_true_iff]
  refine ⟨?_, fun found => ?_, ?_⟩
  · rw [MemoryStore.map_id_put]
    split
    · exact holds.distinct
    · next new =>
      rw [← List.concat_eq_append]
      exact holds.distinct.concat new
  · rw [MemoryStore.mem_put holds.distinct, held]
    -- under the id of the new record that record is held, and elsewhere what was held before
    by_cases same : record.id = found.id
    · rw [if_pos ((key _).2 same), Option.some_inj]
      exact ⟨fun h => (h.resolve_right fun old => old.2 same.symm).symm, fun h => .inl h.symm⟩
    · rw [if_neg (mt (key _).1 same), ← holds.mem_iff found]
      constructor
      · rintro (rfl | ⟨mem, _⟩)
        · exact absurd rfl same
        · exact mem
      · exact fun mem => .inr ⟨mem, Ne.symm same⟩
  · -- only the time of a new id is new, and it is later than all others
    have older {id : String} (old : id ∈ records.map Record.id) :
        since entity id (.upsert record :: history) = since entity id history :=
      if_neg fun new => holds.mem_map_id_iff.1 old new.2
    have kept : (records.map Record.id).Pairwise fun a b =>
        since entity a (.upsert record :: history) <
          since entity b (.upsert record :: history) := by
      refine holds.inOrder.imp_of_mem fun a b earlier => ?_
      rwa [older a, older b]
    rw [MemoryStore.map_id_put]
    split
    · exact kept
    · next new =>
      have last : since entity record.id (.upsert record :: history) = history.length :=
        if_pos ⟨(key _).2 rfl, not_not.1 (mt holds.mem_map_id_iff.2 new)⟩
      refine List.pairwise_append.2 ⟨kept, List.pairwise_singleton _ _, fun id old new mem => ?_⟩
      obtain rfl := List.mem_singleton.1 mem
      obtain ⟨found, before⟩ := Option.ne_none_iff_exists'.1 (holds.mem_map_id_iff.1 old)
      rw [last, older old]
      exact since_lt before

/-- **Removing an id** takes its record out. -/
theorem remove (holds : Holds history entity records) (id : String) :
    Holds (.remove entity id :: history) entity (records.filter fun record => record.id ≠ id) := by
  -- what is left keeps its times, and with them its order
  have part : ((records.filter fun record => record.id ≠ id).map Record.id).Sublist
      (records.map Record.id) := List.filter_sublist.map Record.id
  refine ⟨holds.distinct.sublist part, fun record => ?_, holds.inOrder.sublist part⟩
  rw [List.mem_filter, decide_eq_true_iff, held, holds.mem_iff record]
  by_cases same : id = record.id
  · rw [if_pos ⟨rfl, same⟩]
    exact iff_of_false (fun kept => kept.2 same.symm) nofun
  · rw [if_neg fun key => same key.2]
    exact and_iff_left (Ne.symm same)

end Holds

/-- **The memory holds what the history leaves.** -/
theorem MemoryStore.holds_after (history : List Write) (entity : String) :
    Holds history entity ((MemoryStore.after history).recordsOf entity) := by
  induction history with
  | nil =>
    refine ⟨List.nodup_nil, fun record => ?_, List.Pairwise.nil⟩
    exact iff_of_false List.not_mem_nil nofun
  | cons write earlier ih =>
    -- a write that does not concern the type changes neither its records nor what is held of it
    by_cases other : write.concerns entity = false
    · rw [MemoryStore.after, recordsOf_onMemory _ other]
      exact ih.of_other other
    · cases write with
      | upsert record =>
        have typed : record.entity = entity := by simpa [Write.concerns] using other
        rw [MemoryStore.after, Write.onMemory, recordsOf_upsert, if_pos typed]
        exact ih.upsert typed
      | remove name id =>
        obtain rfl : name = entity := by simpa [Write.concerns] using other
        rw [MemoryStore.after, Write.onMemory, recordsOf_remove, if_pos rfl]
        exact ih.remove id
      | clear => exact Holds.clear earlier entity

/-! ### The table -/

namespace Database.Table

variable {table : Table} {rows : List Row} {record : Record}

/-- The records of an entity type in a list of rows. -/
def recordsIn (entity : String) (rows : List Row) : List Record :=
  (rows.filter fun row => row.record.entity = entity).map Row.record

/-- The records of an entity type, in the order of their rows. -/
def recordsOf (table : Table) (entity : String) : List Record := recordsIn entity table.rows

theorem recordsIn_cons (entity : String) (row : Row) (rows : List Row) :
    recordsIn entity (row :: rows) =
      if row.record.entity = entity then row.record :: recordsIn entity rows
      else recordsIn entity rows := by
  rw [recordsIn, List.filter_cons]
  by_cases typed : row.record.entity = entity
  · rw [if_pos typed, if_pos (decide_eq_true typed)]
    rfl
  · rw [if_neg typed, if_neg (mt of_decide_eq_true typed)]
    rfl

/-- **A table in order**: the rows stand in the order of their numbers. -/
def InOrder (table : Table) : Prop := table.rows.Pairwise fun a b => a.number < b.number

theorem lt_nextNumber {row : Row} (mem : row ∈ table.rows) : row.number < table.nextNumber := by
  -- the highest number so far never falls, and no row that has been passed is above it
  have below (start : Nat) (rows : List Row) :
      start ≤ rows.foldl (fun highest row => max highest row.number) start ∧
        ∀ row ∈ rows,
          row.number ≤ rows.foldl (fun highest row => max highest row.number) start := by
    induction rows generalizing start with
    | nil => exact ⟨Nat.le_refl _, nofun⟩
    | cons first rest ih =>
      obtain ⟨above, each⟩ := ih (max start first.number)
      refine ⟨le_trans (Nat.le_max_left _ _) above, fun row mem => ?_⟩
      rcases List.mem_cons.1 mem with rfl | mem
      · exact le_trans (Nat.le_max_right _ _) above
      · exact each row mem
  exact Nat.lt_succ_of_le ((below 0 table.rows).2 row mem)

/-- A record that is put into a row leaves the numbers as they stand, or adds one at the end. -/
theorem map_number_put (number : Nat) (record : Record) (rows : List Row) :
    (put number record rows).map Row.number = rows.map Row.number ∨
      (put number record rows).map Row.number = rows.map Row.number ++ [number] := by
  induction rows with
  | nil => exact .inr rfl
  | cons row rest ih =>
    rw [put]
    split
    · exact .inl rfl
    · rw [List.map_cons, List.map_cons, List.cons_append, List.cons_inj_right, List.cons_inj_right]
      exact ih

/-- **Every write keeps the order of the rows.** -/
theorem InOrder.onTable (order : table.InOrder) (write : Write) :
    (write.onTable table).1.InOrder := by
  cases write with
  | upsert record =>
    have numbers : (table.rows.map Row.number).Pairwise (· < ·) := List.pairwise_map.2 order
    refine List.pairwise_map.1 ?_
    rcases map_number_put table.nextNumber record table.rows with same | added
    · rw [Write.onTable, upsert, same]
      exact numbers
    · -- a new row gets the next number, and all rows before it have lower ones
      rw [Write.onTable, upsert, added]
      refine List.pairwise_append.2 ⟨numbers, List.pairwise_singleton _ _, fun a mem b mem' => ?_⟩
      obtain ⟨row, inside, rfl⟩ := List.mem_map.1 mem
      obtain rfl := List.mem_singleton.1 mem'
      exact lt_nextNumber inside
  | remove entity id => exact order.sublist List.filter_sublist
  | clear => exact List.Pairwise.nil

/-- A record that is put into the table is put among the records of its type. -/
theorem recordsIn_put (number : Nat) (record : Record) (entity : String) (rows : List Row) :
    recordsIn entity (put number record rows) =
      if record.entity = entity then MemoryStore.put record (recordsIn entity rows)
      else recordsIn entity rows := by
  induction rows with
  | nil => exact recordsIn_cons entity ⟨number, record⟩ []
  | cons row rest ih =>
    rw [put]
    by_cases key : row.record.hasKey record.entity record.id
    · -- the row with the key is the first record of the type with the id
      obtain ⟨sameEntity, sameId⟩ := Record.hasKey_iff.1 key
      rw [if_pos key, recordsIn_cons, recordsIn_cons, sameEntity]
      split
      · rw [MemoryStore.put, if_pos sameId]
      · rfl
    · rw [if_neg key, recordsIn_cons, recordsIn_cons, ih]
      -- the row stays in front, as a record of the type or as none
      by_cases typed : record.entity = entity
      · rw [if_pos typed, if_pos typed]
        split
        · next typed' =>
          have otherId : row.record.id ≠ record.id := fun sameId =>
            key (Record.hasKey_iff.2 ⟨typed'.trans typed.symm, sameId⟩)
          rw [MemoryStore.put, if_neg otherId]
        · rfl
      · rw [if_neg typed, if_neg typed]

theorem recordsOf_upsert (table : Table) (record : Record) (entity : String) :
    (table.upsert record).recordsOf entity =
      if record.entity = entity then MemoryStore.put record (table.recordsOf entity)
      else table.recordsOf entity :=
  recordsIn_put table.nextNumber record entity table.rows

theorem recordsOf_remove (table : Table) (other id entity : String) :
    (table.remove other id).1.recordsOf entity =
      if other = entity then (table.recordsOf entity).filter fun record => record.id ≠ id
      else table.recordsOf entity := by
  change recordsIn entity (table.rows.filter fun row => !row.record.hasKey other id) = _
  rw [recordsOf, recordsIn, List.filter_filter]
  split
  · next same =>
    -- among the rows of the type the id alone tells which ones are removed
    rw [recordsIn, List.filter_map, List.filter_filter]
    congr 1
    refine List.filter_congr fun row _ => ?_
    by_cases typed : row.record.entity = entity
    · rw [Record.hasKey_of_entity (typed.trans same.symm), Bool.and_comm]
      simp only [Function.comp_apply, ne_eq, decide_not]
    · rw [decide_eq_false typed, Bool.false_and, Bool.and_false]
  · next different =>
    rw [recordsIn]
    congr 1
    refine List.filter_congr fun row _ => ?_
    by_cases typed : row.record.entity = entity
    · have unlike : row.record.entity ≠ other := fun same => different (same.symm.trans typed)
      rw [Record.hasKey_of_ne unlike, Bool.not_false, Bool.and_true]
    · rw [decide_eq_false typed, Bool.false_and]

/-- A removal tells whether a record of the id was there. -/
theorem remove_answer (table : Table) (entity id : String) :
    (table.remove entity id).2 = (table.recordsOf entity).any fun record => record.id = id := by
  change decide ((table.rows.filter fun row => !row.record.hasKey entity id).length <
    table.rows.length) = _
  rw [Bool.eq_iff_iff, decide_eq_true_iff, List.length_filter_lt_length_iff_exists,
    List.any_eq_true]
  constructor
  · rintro ⟨row, mem, key⟩
    rw [Bool.not_eq_true, Bool.not_eq_false', Record.hasKey_iff] at key
    refine ⟨row.record, List.mem_map_of_mem (List.mem_filter.2 ⟨mem, ?_⟩), decide_eq_true key.2⟩
    exact decide_eq_true key.1
  · rintro ⟨record, mem, sameId⟩
    obtain ⟨row, inside, rfl⟩ := List.mem_map.1 mem
    obtain ⟨inside, typed⟩ := List.mem_filter.1 inside
    refine ⟨row, inside, ?_⟩
    rw [Bool.not_eq_true, Bool.not_eq_false', Record.hasKey_iff]
    exact ⟨of_decide_eq_true typed, of_decide_eq_true sameId⟩

/-- The table that a history leaves. -/
def after : List Write → Table
  | [] => .empty
  | write :: earlier => (write.onTable (after earlier)).1

theorem inOrder_after (history : List Write) : (Table.after history).InOrder := by
  induction history with
  | nil => exact List.Pairwise.nil
  | cons write earlier ih => exact ih.onTable write

/-- **A write leaves the records of other types as they are.** -/
theorem recordsOf_onTable (table : Table) {write : Write} {entity : String}
    (other : write.concerns entity = false) :
    (write.onTable table).1.recordsOf entity = table.recordsOf entity := by
  cases write with
  | upsert record =>
    exact (recordsOf_upsert table record entity).trans (if_neg (beq_eq_false_iff_ne.1 other))
  | remove name id =>
    exact (recordsOf_remove table name id entity).trans (if_neg (beq_eq_false_iff_ne.1 other))
  | clear => cases other

end Database.Table

/-! ### Both stores -/

/-- A write does the same to the records of both stores. -/
theorem recordsOf_write {table : Database.Table} {store : MemoryStore}
    (same : ∀ entity, table.recordsOf entity = store.recordsOf entity) (write : Write)
    (entity : String) :
    (write.onTable table).1.recordsOf entity = (write.onMemory store).1.recordsOf entity := by
  cases write with
  | upsert record =>
    rw [Write.onTable, Write.onMemory, Database.Table.recordsOf_upsert,
      MemoryStore.recordsOf_upsert, same]
  | remove name id =>
    rw [Write.onTable, Write.onMemory, Database.Table.recordsOf_remove,
      MemoryStore.recordsOf_remove, same]
  | clear => rfl

/-- **Both stores hold the same records** after any history. -/
theorem recordsOf_after (history : List Write) (entity : String) :
    (Database.Table.after history).recordsOf entity =
      (MemoryStore.after history).recordsOf entity := by
  induction history generalizing entity with
  | nil => rfl
  | cons write earlier ih => exact recordsOf_write ih write entity

/-- **A removal tells whether the record was held.** -/
theorem MemoryStore.remove_answer_held (history : List Write) (entity id : String) :
    ((MemoryStore.after history).remove entity id).2 = (held entity id history).isSome := by
  have holds := MemoryStore.holds_after history entity
  rw [remove_answer, Bool.eq_iff_iff, Option.isSome_iff_ne_none, ← holds.mem_map_id_iff,
    List.any_eq_true, List.mem_map]
  simp only [decide_eq_true_eq]

/-- **Both stores give the same answer** to a write after any history. -/
theorem answer_eq (history : List Write) (write : Write) :
    (write.onTable (Database.Table.after history)).2 =
      (write.onMemory (MemoryStore.after history)).2 := by
  cases write with
  | upsert record => rfl
  | remove entity id =>
    rw [Write.onTable, Write.onMemory, Database.Table.remove_answer, MemoryStore.remove_answer,
      recordsOf_after]
  | clear => rfl

end EntitySearch
