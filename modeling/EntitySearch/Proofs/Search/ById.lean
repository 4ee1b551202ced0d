import EntitySearch.Proofs.Search.BareWords
import EntitySearch.Proofs.Stores.Writes

/-!
# Finding an entity by its id

A record is kept under a text, and its document has the id as a value. Looking for the text is a
search like any other: the text is converted to the type of the field, and the value is compared
with the ids in the documents (`Service.find?_eq`).

So a record is found by its own id if the way from the value to the text and back ends where it
began. A text and an integer have one text each. A UUID has many, of which the store keeps the one
that it is given, and the converted value has only that in lower case with hyphens
(`Record.HasIdOf.exists_valueOf?`). What is found is the record that is kept under the text of the
converted value (`Record.HasIdOf.accepts_equals`), and in a store there is no other one of its id
(`only_of_distinct`). `Reached.find?_own_id` puts this together.
-/

namespace EntitySearch

/-- Different integers have different texts. -/
theorem Number.intText_injective : Function.Injective intText := by
  intro m n same
  have digits : intDigits m = intDigits n := String.ofList_injective same
  have read := readInt?_intDigits (min_le_left m n) (le_max_left m n)
  rw [digits, readInt?_intDigits (min_le_right m n) (le_max_right m n)] at read
  exact (Option.some.inj read).symm

/-! ### The texts of UUIDs -/

namespace Uuid

variable {s : List Char} {id : Uuid}

theorem noBlank_of_ofDigits? (read : ofDigits? s = some id) : Text.NoBlank s := by
  intro c mem
  exact Text.isBlank_eq_false (fun c => (Number.hexValue? c).isSome) (by decide +kernel)
    (isSome_hexValue?_of_ofDigits? read c mem)

theorem noBlank_of_ofHyphenated? (read : ofHyphenated? s = some id) : Text.NoBlank s := by
  rw [ofHyphenated?] at read
  split at read
  · next a b c d e pieces =>
    split at read
    · have plain := noBlank_of_ofDigits? read
      intro x mem
      -- a character is a hyphen or stands in one of the groups of digits
      have found : x = '-' ∨ ∃ piece ∈ Text.splitAt '-' s, x ∈ piece := Text.exists_mem_splitAt mem
      rcases found with rfl | ⟨piece, listed, inside⟩
      · decide
      · rw [pieces] at listed
        have joined : x ∈ [a, b, c, d, e].flatten := List.mem_flatten.2 ⟨piece, listed, inside⟩
        exact plain x (by simpa using joined)
    · cases read
  · cases read

/-- What stands in braces is the text without them. -/
theorem eq_of_inBraces? {inner : List Char} (found : inBraces? s = some inner) :
    s = '\x7b' :: (inner ++ ['\x7d']) := by
  cases s with
  | nil => cases found
  | cons c rest =>
    rw [inBraces?] at found
    split at found
    · next same =>
      rw [Text.before?] at found
      split at found
      · next last front text =>
        split at found
        · next closing =>
          obtain rfl := Option.some.inj found
          rw [← List.reverse_reverse rest, text, same, closing, List.reverse_cons]
        · cases found
      · cases found
    · cases found

/-- **There is no white space in the text of a UUID**, however it is written. -/
theorem noBlank_of_read? (read : read? s = some id) : Text.NoBlank s := by
  have after {before rest : List Char} (plain : Text.NoBlank before)
      (found : Text.after? before s = some rest) (read : ofHyphenated? rest = some id) :
      Text.NoBlank s := by
    rw [Query.after?_eq_some_iff.1 found]
    exact List.forall_mem_append.2 ⟨plain, noBlank_of_ofHyphenated? read⟩
  rw [read?] at read
  -- the four forms: digits alone, in braces, behind the prefix of a URN, or with hyphens
  split at read
  · next digits => exact noBlank_of_ofDigits? digits
  · split at read
    · next inner _ braces =>
      rw [eq_of_inBraces? braces]
      refine List.forall_mem_cons.2 ⟨by decide, List.forall_mem_append.2 ⟨?_, ?_⟩⟩
      · exact noBlank_of_ofHyphenated? read
      · exact List.forall_mem_singleton.2 (by decide)
    · next rest _ urn =>
      rw [afterUrn?] at urn
      split at urn
      · next lower =>
        obtain rfl := Option.some.inj urn
        exact after (.of_all rfl) lower read
      · exact after (.of_all rfl) urn read
    · exact noBlank_of_ofHyphenated? read

end Uuid

/-! ### Equality with a converted value -/

namespace DocumentTest

variable {value : TypedValue}

theorem holds_equals_text {s t : String} (stored : value.scalar? = some (.text t)) :
    holds .equals value (.text s) = decide (s = t) := by
  unfold holds Json.orderTyped?
  rw [stored, Bool.eq_iff_iff, decide_eq_true_iff]
  exact beq_iff_eq.trans compare_eq_iff_eq

theorem holds_equals_int {m n : Int} (fits : Number.isInt64 m = true)
    (stored : value.scalar? = some (.integer n)) :
    holds .equals value (.int m) = decide (m = n) := by
  unfold holds Json.orderTyped?
  rw [stored, Json.scalar?, if_pos fits, Bool.eq_iff_iff, decide_eq_true_iff]
  exact beq_iff_eq.trans compare_eq_iff_eq

end DocumentTest

/-! ### Ids as texts and as values -/

/-- **A value of the type of an id.** -/
inductive FieldType.IsId : FieldType → Json → Prop
  | text (s : String) : IsId .text (.text s)
  | integer {n : Int} (above : Number.minInt32 ≤ n) (below : n ≤ Number.maxInt32) :
      IsId .integer (.int n)
  | long {n : Int} (above : Number.minInt64 ≤ n) (below : n ≤ Number.maxInt64) :
      IsId .long (.int n)
  | uuid {s : String} {id : Uuid} (read : Uuid.read? s.toList = some id) : IsId .uuid (.text s)

/-- **A record with an id of a type**: it has the id of its document, a value of the type. -/
structure Record.HasIdOf (type : FieldType) (record : Record) (id : Json) : Prop where
  made : ofDocument? record.entity record.document = some record
  member : record.document.member? "id" = some id
  typed : type.IsId id

namespace Record.HasIdOf

variable {type : FieldType} {record : Record} {id : Json}

theorem idText? (has : record.HasIdOf type id) : Record.idText? id = some record.id := by
  obtain ⟨text, found, same⟩ := Option.map_eq_some_iff.1 has.made
  rw [has.member] at found
  rw [← same]
  exact found

/-- **The text of an id is converted** to the type of the field. The value has the same text again,
unless it is a UUID in another form. -/
theorem exists_valueOf? (has : record.HasIdOf type id) :
    ∃ value, type.valueOf? record.id = some value ∧
      (type ≠ .uuid → value.display = record.id) := by
  have integer {n low high : Int} (above : low ≤ n) (below : n ≤ high) :
      Number.readInt? low high (Text.trim (Number.intText n).toList) = some n := by
    rw [(Query.noBlank_intText n).trim, Number.intText, String.toList_ofList]
    exact Number.readInt?_intDigits above below
  have text := has.idText?
  have typed := has.typed
  generalize record.id = spelled at text
  cases typed with
  | text s => exact ⟨.text spelled, rfl, fun _ => rfl⟩
  | @integer n above below =>
    obtain rfl : Number.intText n = spelled := Option.some.inj text
    exact ⟨.integer n, by rw [FieldType.valueOf?, integer above below]; rfl, fun _ => rfl⟩
  | @long n above below =>
    obtain rfl : Number.intText n = spelled := Option.some.inj text
    exact ⟨.long n, by rw [FieldType.valueOf?, integer above below]; rfl, fun _ => rfl⟩
  | @uuid s id read =>
    -- the record keeps the form that came in, and the value forgets it
    obtain rfl : s = spelled := Option.some.inj text
    refine ⟨.uuid id, ?_, fun other => absurd rfl other⟩
    rw [FieldType.valueOf?, (Uuid.noBlank_of_read? read).trim, read]
    rfl

/-- **An id is equal to a converted one** exactly if it has the text of that. -/
theorem holds_equals (has : record.HasIdOf type id) {text : String} {value : TypedValue}
    (converted : type.valueOf? text = some value) :
    DocumentTest.holds .equals value id = decide (record.id = value.display) := by
  -- integers are equal exactly if their texts are
  have texts {m n : Int} : decide (m = n) = decide (Number.intText m = Number.intText n) :=
    decide_eq_decide.2 Number.intText_injective.eq_iff.symm
  have spelled := has.idText?
  have typed := has.typed
  generalize record.id = own at spelled
  cases typed with
  | text s =>
    obtain rfl := Option.some.inj converted
    obtain rfl : s = own := Option.some.inj spelled
    exact DocumentTest.holds_equals_text rfl
  | @integer m above below =>
    obtain ⟨n, _, rfl⟩ := Option.map_eq_some_iff.1 converted
    obtain rfl : Number.intText m = own := Option.some.inj spelled
    have fits := Number.isInt64_iff.2 ⟨le_trans (by decide) above, le_trans below (by decide)⟩
    exact (DocumentTest.holds_equals_int fits rfl).trans texts
  | @long m above below =>
    obtain ⟨n, _, rfl⟩ := Option.map_eq_some_iff.1 converted
    obtain rfl : Number.intText m = own := Option.some.inj spelled
    have fits := Number.isInt64_iff.2 ⟨above, below⟩
    exact (DocumentTest.holds_equals_int fits rfl).trans texts
  | @uuid s _ _ =>
    obtain ⟨u, _, rfl⟩ := Option.map_eq_some_iff.1 converted
    obtain rfl : s = own := Option.some.inj spelled
    exact DocumentTest.holds_equals_text rfl

/-- **A comparison with a converted id** accepts the documents of the records that have its text. -/
theorem accepts_equals (has : record.HasIdOf type id) {text : String} {value : TypedValue}
    (converted : type.valueOf? text = some value) (entity : String) (field : Field) :
    Filter.accepts (.and [.leaf ⟨⟨entity, none, ["id"], field⟩, .equals, value⟩]) record.document =
      decide (record.id = value.display) := by
  have found : DocumentTest.valuesAt ⟨none, ["id"]⟩ record.document = [id] := by
    rw [DocumentTest.valuesAt, DocumentTest.valueAt, Json.at?, has.member]
    rfl
  rw [Filter.accepts, Filter.holds_and, List.all_cons, List.all_nil, Bool.and_true,
    Filter.holds_leaf, passes_equals]
  change (DocumentTest.valuesAt ⟨none, ["id"]⟩ record.document).any _ = _
  rw [found, List.any_cons, List.any_nil, Bool.or_false, has.holds_equals converted]

end Record.HasIdOf

/-! ### Looking for an id -/

namespace Service

variable {service : Service} {entity id : String} {field : Field} {value : TypedValue}

/-- The request for an id has one criterion. -/
theorem compile_idRequest (entity id : String) :
    (idRequest entity id).compile = .ok (.and [.leaf "ID_EQUALS"]) := by
  refine Request.compile_eq_ok_iff.2 ⟨fun group mem other listed => ?_, nofun, [], .none rfl, rfl⟩
  obtain rfl := List.mem_singleton.1 mem
  obtain rfl := List.mem_singleton.1 listed
  exact ⟨_, List.mem_singleton_self _, rfl⟩

/-- Where one record matches, the page from the first row on shows it. -/
theorem only?_page {plan : Plan} {fetch : Fetch} (wanted : plan.fetch = some fetch)
    (start : fetch.offset = 0) (positive : 0 < fetch.limit) (whole : fetch.projection = none)
    (matched : List Record) :
    (plan.page matched).only? = if matched.length = 1 then matched.head? else none := by
  rw [Page.only?, Plan.page, wanted]
  dsimp only
  split
  · next single =>
    obtain ⟨record, rfl⟩ := List.length_eq_one_iff.1 single
    rw [List.mergeSort_singleton, Fetch.cut, start, List.drop_zero,
      List.take_of_length_le (by exact positive), whole]
    rfl
  · rfl

/-- **Finding by an id can be planned** where the field of the id is declared and converts it. -/
theorem planFind_eq {registry : Registry} (reached : registry.Reached)
    (declared : registry.findField? entity "id" = some field) (scalar : field.type.isScalar = true)
    (converted : field.type.valueOf? id = some value) :
    planFind ⟨registry, {}⟩ entity id =
      .ok ⟨⟨entity, 0, 2, "id", .ascending, none, false, by decide⟩,
        .and [.leaf ⟨⟨entity, none, ["id"], field⟩, .equals, value⟩],
        some ⟨entity, ⟨entity, none, ["id"], field⟩, .ascending, 0, 2, none⟩⟩ := by
  obtain ⟨_, resolved⟩ := reached.resolve_findField? declared
  obtain ⟨start, registered, _⟩ := Option.bind_eq_some_iff.1 declared
  have identifier := reached.wellNamed.isIdentifier registered
  -- the name of an entity type is an identifier, so it passes the check of the options
  have named : Options.requiredText "entity type" (some entity) = .ok entity :=
    Options.requiredText_eq_ok_iff.2 ⟨entity, rfl, identifier.trimmed.symm, fun empty =>
      identifier.nonempty (by rw [empty]; rfl)⟩
  have comparison : Criterion.comparison ⟨"ID_EQUALS", entity, "id", .equals, .text id⟩ registry {}
      entity = .ok ⟨⟨entity, none, ["id"], field⟩, .equals, value⟩ := by
    rw [comparison_eq resolved scalar rfl rfl]
    change (field.coerce (.text id)).map _ = _
    rw [Field.coerce_text, converted]
    rfl
  -- the request has one criterion, whose id is compared with the converted text
  have filter : Service.filter ⟨registry, {}⟩ (idRequest entity id) entity =
      .ok (.and [.leaf ⟨⟨entity, none, ["id"], field⟩, .equals, value⟩]) := by
    rw [Service.filter, Request.filter_of_single (compile_idRequest entity id) rfl rfl, comparison]
    rfl
  have sort : sortAttribute ⟨registry, {}⟩ entity "id" = .ok ⟨entity, none, ["id"], field⟩ :=
    Outcome.bind_eq_ok_iff.2 ⟨_, resolved, by simp [scalar]⟩
  have sortField : Options.requiredText "sort field" (some "id") = .ok "id" := by rfl
  refine plan_eq_ok_iff.2 ⟨?_, filter, Or.inr ⟨rfl, _, ?_, rfl⟩⟩
  · exact Options.complete_eq_ok_iff.2 ⟨named, rfl, rfl, sortField, rfl, rfl, rfl⟩
  · exact fetch_eq_ok_iff.2 ⟨_, none, sort, rfl, rfl⟩

/-- **What finding by an id gives**: the record that matches, if there is one and no other. -/
theorem find?_eq {registry : Registry} (reached : registry.Reached)
    (declared : registry.findField? entity "id" = some field) (scalar : field.type.isScalar = true)
    (converted : field.type.valueOf? id = some value) (store : MemoryStore) :
    Service.find? ⟨registry, {}⟩ store entity id =
      let matched := store.accepted entity
        (.and [.leaf ⟨⟨entity, none, ["id"], field⟩, .equals, value⟩])
      .ok (if matched.length = 1 then matched.head? else none) := by
  have planned := planFind_eq reached declared scalar converted
  refine Outcome.bind_eq_ok_iff.2 ⟨_, planned, ?_⟩
  refine Outcome.bind_eq_ok_iff.2 ⟨_, run_eq store planned, congrArg Except.ok ?_⟩
  exact only?_page rfl rfl Nat.zero_lt_two rfl _

end Service

/-! ### The records of a store -/

section Stored

variable {records : List Record} {record : Record} {id : String}
  (distinct : (records.map Record.id).Nodup)
include distinct

/-- Among records of different ids one of an id is the only one. -/
theorem only_of_distinct (id : String) :
    (let matched := records.filter fun record => record.id = id
      if matched.length = 1 then matched.head? else none) =
      records.find? fun record => record.id = id := by
  -- ids are counted once at most
  have most : (records.filter fun record => record.id = id).length ≤ 1 := by
    have count := List.nodup_iff_count_le_one.1 distinct id
    rw [List.count, List.countP_map, List.countP_eq_length_filter] at count
    exact count
  dsimp only
  rw [← List.head?_filter]
  split
  · rfl
  · next several =>
    -- more than one would be two records of one id
    have none : records.filter (fun record => record.id = id) = [] :=
      List.length_eq_zero_iff.1 (by omega)
    rw [none, List.head?_nil]

/-- A record is the first one of its id, where ids are different. -/
theorem find?_own (mem : record ∈ records) :
    records.find? (fun other => other.id = id) = some record ↔ id = record.id := by
  constructor
  · intro found
    exact (by simpa using List.find?_some found : record.id = id).symm
  · rintro rfl
    cases found : records.find? fun other => other.id = record.id with
    | none => exact absurd (decide_eq_true rfl) (List.find?_eq_none.1 found record mem)
    | some other =>
      have same : other.id = record.id := by simpa using List.find?_some found
      rw [List.inj_on_of_nodup_map distinct (List.mem_of_find?_eq_some found) mem same]

end Stored

namespace Registry

/-- **Finding a record by its own id.** Found is the record that is kept under the text of the
converted id. This is the record itself if its id is that text, which it is for all types but that
of UUIDs. -/
theorem Reached.find?_own_id {registry : Registry} (reached : registry.Reached) {entity : String}
    {field : Field} (declared : registry.findField? entity "id" = some field)
    {history : List Write}
    (identified : ∀ record, .upsert record ∈ history → record.entity = entity →
      ∃ id, record.HasIdOf field.type id)
    {record : Record} (stored : record ∈ (MemoryStore.after history).recordsOf entity) :
    ∃ value, field.type.valueOf? record.id = some value ∧
      Service.find? ⟨registry, {}⟩ (MemoryStore.after history) entity record.id =
        .ok (((MemoryStore.after history).recordsOf entity).find? (·.id = value.display)) ∧
      (Service.find? ⟨registry, {}⟩ (MemoryStore.after history) entity record.id =
        .ok (some record) ↔ value.display = record.id) ∧
      (field.type ≠ .uuid → value.display = record.id) := by
  have holds := MemoryStore.holds_after history entity
  -- every record of the store came in by a write, so its id has the type as well
  have has : ∀ other ∈ (MemoryStore.after history).recordsOf entity,
      ∃ id, other.HasIdOf field.type id := by
    intro other mem
    have found := (holds.mem_iff other).1 mem
    exact identified other (upsert_mem_of_held found) (hasKey_of_held found).1
  obtain ⟨id, own⟩ := has record stored
  obtain ⟨value, converted, plain⟩ := own.exists_valueOf?
  have scalar : field.type.isScalar = true := by
    have typed := own.typed
    generalize field.type = type at typed
    cases typed <;> rfl
  -- the filter keeps the records whose id is the text of the value
  have matched : (MemoryStore.after history).accepted entity
      (.and [.leaf ⟨⟨entity, none, ["id"], field⟩, .equals, value⟩]) =
      ((MemoryStore.after history).recordsOf entity).filter (·.id = value.display) := by
    refine List.filter_congr fun other mem => ?_
    obtain ⟨id', theirs⟩ := has other mem
    exact theirs.accepts_equals converted entity field
  have found := Service.find?_eq reached declared scalar converted (MemoryStore.after history)
  rw [matched] at found
  dsimp only at found
  rw [only_of_distinct holds.distinct] at found
  refine ⟨value, converted, found, ?_, plain⟩
  rw [found, Except.ok.injEq]
  exact find?_own holds.distinct stored

/-- Sessions that are known by UUIDs. -/
def sessions : Registry := (empty.registerInPlace ⟨"Session", none, [⟨"id", .uuid⟩]⟩).2

theorem sessions_reached : Reached sessions := .registered .empty _

/-- A session whose id is a UUID in upper case. -/
def shouted : Record :=
  let id := "550E8400-E29B-41D4-A716-446655440000"
  ⟨"Session", id, .object [("id", .text id)]⟩

/-- A session whose UUID is written in upper case is not found by its own id. -/
theorem Reached.find?_own_id_shouted :
    shouted.HasIdOf .uuid (.text shouted.id) ∧
      (MemoryStore.after [.upsert shouted]).recordsOf "Session" = [shouted] ∧
      Service.find? ⟨sessions, {}⟩ (MemoryStore.after [.upsert shouted]) "Session" shouted.id =
        .ok none := by
  have declared : sessions.findField? "Session" "id" = some ⟨"id", .uuid⟩ := by cbv
  have spelled : (Uuid.read? shouted.id.toList).map Uuid.text =
      some "550e8400-e29b-41d4-a716-446655440000" := by
    cbv
  obtain ⟨id, read, text⟩ := Option.map_eq_some_iff.1 spelled
  have has : shouted.HasIdOf .uuid (.text shouted.id) := ⟨rfl, rfl, .uuid read⟩
  have stored : (MemoryStore.after [.upsert shouted]).recordsOf "Session" = [shouted] := rfl
  have identified : ∀ record, .upsert record ∈ [Write.upsert shouted] → record.entity = "Session" →
      ∃ id, record.HasIdOf .uuid id := by
    intro record mem _
    obtain rfl := Write.upsert.inj (List.mem_singleton.1 mem)
    exact ⟨_, has⟩
  obtain ⟨value, converted, found, _⟩ := sessions_reached.find?_own_id declared identified
    (stored ▸ List.mem_singleton_self shouted)
  have display : value.display = "550e8400-e29b-41d4-a716-446655440000" := by
    rw [FieldType.valueOf?, (Uuid.noBlank_of_read? read).trim, read] at converted
    obtain rfl := Option.some.inj converted
    exact text
  refine ⟨has, stored, found.trans ?_⟩
  rw [stored, display]
  rfl

end Registry

end EntitySearch
