import EntitySearch.Proofs.Outcome
import EntitySearch.Service
import EntitySearch.Store.Memory

/-!
# Plans and their pages

A plan consists of complete options, a filter and what to fetch, and only the filter depends on the
request (`Service.plan_eq_ok_iff`). Two requests with filters over the same entity type are
therefore planned alike up to the filter (`Service.plan_with_filter`).

On a store in memory a plan cannot fail. Its page is a function of the records that match
(`Plan.page`), and the records that match are those that the filter accepts (`run_eq`).
-/

namespace EntitySearch

/-! ### Complete options -/

namespace Options

theorem requiredText_eq_ok_iff {option text : String} {given : Option String} :
    requiredText option given = .ok text ↔
      ∃ spelled, given = some spelled ∧ text = Text.trimmed spelled ∧ text ≠ "" := by
  cases given with
  | none =>
    constructor
    · intro h; cases h
    · rintro ⟨spelled, h, _⟩; cases h
  | some spelled =>
    rw [requiredText]
    constructor
    · intro h
      split at h
      · cases h
      · next full =>
        obtain rfl := Except.ok.inj h
        exact ⟨spelled, rfl, rfl, by simpa using full⟩
    · rintro ⟨other, same, rfl, full⟩
      obtain rfl := Option.some.inj same
      rw [if_neg (by simpa using full)]

theorem requiredValue_eq_ok_iff {α : Type} {option : String} {value : α} {given : Option α} :
    requiredValue option given = .ok value ↔ given = some value := by
  cases given with
  | none => simp [requiredValue]
  | some found => simp [requiredValue]

/-- **What options are when they are complete.** -/
theorem complete_eq_ok_iff {options : Options} {complete : Complete} :
    options.complete = .ok complete ↔
      requiredText "entity type" options.entity = .ok complete.entity ∧
        options.page = some complete.page ∧ options.pageSize = some complete.pageSize ∧
        requiredText "sort field" options.sortField = .ok complete.sortField ∧
        options.direction = some complete.direction ∧ options.projection = complete.projection ∧
        options.countOnly = complete.countOnly := by
  constructor
  · intro h
    obtain ⟨entity, named, h⟩ := Outcome.bind_eq_ok_iff.1 h
    obtain ⟨page, numbered, h⟩ := Outcome.bind_eq_ok_iff.1 h
    obtain ⟨pageSize, sized, h⟩ := Outcome.bind_eq_ok_iff.1 h
    -- the size of a page is checked to be positive
    split at h
    · obtain ⟨sortField, sorted, h⟩ := Outcome.bind_eq_ok_iff.1 h
      obtain ⟨direction, directed, h⟩ := Outcome.bind_eq_ok_iff.1 h
      obtain rfl := Except.ok.inj h
      exact ⟨named, requiredValue_eq_ok_iff.1 numbered, requiredValue_eq_ok_iff.1 sized, sorted,
        requiredValue_eq_ok_iff.1 directed, rfl, rfl⟩
    · cases h
  · obtain ⟨_, page, pageSize, _, direction, _, _, positive⟩ := complete
    rintro ⟨named, numbered, sized, sorted, directed, rfl, rfl⟩
    refine Outcome.bind_eq_ok_iff.2 ⟨_, named, ?_⟩
    refine Outcome.bind_eq_ok_iff.2 ⟨page, requiredValue_eq_ok_iff.2 numbered, ?_⟩
    refine Outcome.bind_eq_ok_iff.2 ⟨pageSize, requiredValue_eq_ok_iff.2 sized, ?_⟩
    rw [dif_pos positive]
    refine Outcome.bind_eq_ok_iff.2 ⟨_, sorted, ?_⟩
    exact Outcome.bind_eq_ok_iff.2 ⟨direction, requiredValue_eq_ok_iff.2 directed, rfl⟩

/-- The entity type of complete options is the given one without the white space around it. -/
theorem entity_of_complete {options : Options} {complete : Complete}
    (h : options.complete = .ok complete) :
    ∃ spelled, options.entity = some spelled ∧ complete.entity = Text.trimmed spelled ∧
      complete.entity ≠ "" :=
  requiredText_eq_ok_iff.1 (complete_eq_ok_iff.1 h).1

end Options

/-! ### Planning -/

namespace Service

variable {service : Service} {request : Request} {options : Options} {plan : Plan}

theorem fetch_eq_ok_iff {options : Options.Complete} {fetch : Fetch} :
    service.fetch options = .ok fetch ↔
      ∃ sort projection, service.sortAttribute options.entity options.sortField = .ok sort ∧
        service.projection options.entity options.projection = .ok projection ∧
          fetch = ⟨options.entity, sort, options.direction, options.offset, options.pageSize,
            projection⟩ := by
  rw [Service.fetch, Outcome.bind_eq_ok_iff]
  refine exists_congr fun sort => ?_
  rw [Outcome.bind_eq_ok_iff, ← exists_and_left]
  refine exists_congr fun projection => and_congr_right fun _ => and_congr_right fun _ => ?_
  exact ⟨fun h => (Except.ok.inj h).symm, fun h => congrArg Except.ok h.symm⟩

/-- **What a plan consists of.** -/
theorem plan_eq_ok_iff :
    service.plan request options = .ok plan ↔
      options.complete = .ok plan.options ∧
        service.filter request plan.options.entity = .ok plan.filter ∧
          (plan.options.countOnly = true ∧ plan.fetch = none ∨
            plan.options.countOnly = false ∧
              ∃ fetch, service.fetch plan.options = .ok fetch ∧ plan.fetch = some fetch) := by
  constructor
  · intro h
    obtain ⟨complete, completed, h⟩ := Outcome.bind_eq_ok_iff.1 h
    obtain ⟨filter, made, h⟩ := Outcome.bind_eq_ok_iff.1 h
    -- a plan that only counts fetches nothing
    split at h
    · next counts =>
      obtain rfl := Except.ok.inj h
      exact ⟨completed, made, Or.inl ⟨counts, rfl⟩⟩
    · next fetches =>
      obtain ⟨fetch, fetched, h⟩ := Outcome.bind_eq_ok_iff.1 h
      obtain rfl := Except.ok.inj h
      exact ⟨completed, made, Or.inr ⟨Bool.eq_false_iff.2 fetches, fetch, fetched, rfl⟩⟩
  · obtain ⟨complete, filter, fetch⟩ := plan
    rintro ⟨completed, made, ⟨counts, rfl⟩ | ⟨fetches, fetch, fetched, rfl⟩⟩
    · refine Outcome.bind_eq_ok_iff.2 ⟨complete, completed, ?_⟩
      refine Outcome.bind_eq_ok_iff.2 ⟨filter, made, ?_⟩
      rw [if_pos counts]
    · refine Outcome.bind_eq_ok_iff.2 ⟨complete, completed, ?_⟩
      refine Outcome.bind_eq_ok_iff.2 ⟨filter, made, ?_⟩
      rw [if_neg (by simpa using fetches), fetched]
      rfl

/-- Two requests with filters over the same entity type are planned alike up to the filter. -/
theorem plan_with_filter (h : service.plan request options = .ok plan) {other : Request}
    {filter : Filter Comparison} (made : service.filter other plan.options.entity = .ok filter) :
    service.plan other options = .ok { plan with filter := filter } := by
  obtain ⟨completed, _, fetched⟩ := plan_eq_ok_iff.1 h
  exact plan_eq_ok_iff.2 ⟨completed, made, fetched⟩

/-- **What a plan fetches** is what its options ask for. -/
theorem fetch_eq_of_plan (h : service.plan request options = .ok plan) {fetch : Fetch}
    (wanted : plan.fetch = some fetch) : service.fetch plan.options = .ok fetch := by
  obtain ⟨_, _, ⟨_, counts⟩ | ⟨_, found, fetched, same⟩⟩ := plan_eq_ok_iff.1 h
  · rw [counts] at wanted
    cases wanted
  · obtain rfl := Option.some.inj (same.symm.trans wanted)
    exact fetched

/-- What is fetched is of the entity type that is searched. -/
theorem fetch_entity (h : service.plan request options = .ok plan) {fetch : Fetch}
    (wanted : plan.fetch = some fetch) : fetch.entity = plan.options.entity := by
  obtain ⟨_, _, _, _, rfl⟩ := fetch_eq_ok_iff.1 (fetch_eq_of_plan h wanted)
  rfl

end Service

/-! ### Pages -/

/-- **The page of a plan** when these are the records that match. -/
def Plan.page (plan : Plan) (matched : List Record) : Page where
  rows :=
    match plan.fetch with
    | some fetch =>
      (fetch.cut (matched.mergeSort (MemoryStore.inOrder fetch))).map
        (MemoryStore.shown fetch.projection)
    | none => []
  total := matched.length
  page := plan.options.page
  pageSize := plan.options.pageSize

/-- **The records that match a plan**, in the order of their insertion. -/
def MemoryStore.matching (store : MemoryStore) (plan : Plan) : List Record :=
  store.accepted plan.options.entity plan.filter

/-- A filter that accepts less by a test of documents matches less by the same test, in the same
order. -/
theorem MemoryStore.accepted_and (store : MemoryStore) (entity : String) {keep : Json → Bool}
    {outer inner : Filter Comparison}
    (h : ∀ document, outer.accepts document = (keep document && inner.accepts document)) :
    store.accepted entity outer =
      (store.accepted entity inner).filter fun record => keep record.document := by
  rw [accepted, accepted, List.filter_filter]
  exact List.filter_congr fun record _ => h record.document

/-- Running a plan on a store in memory. -/
theorem run_eq {service : Service} {request : Request} {options : Options} {plan : Plan}
    (store : MemoryStore) (h : service.plan request options = .ok plan) :
    plan.run store = .ok (plan.page (store.matching plan)) := by
  rw [Plan.run, Plan.page]
  cases wanted : plan.fetch with
  | none => rfl
  | some fetch =>
    -- rows are fetched and counted over the same type, so both see the same matches
    have sorted : store.sorted fetch plan.filter =
        (store.matching plan).mergeSort (MemoryStore.inOrder fetch) := by
      rw [MemoryStore.sorted, Service.fetch_entity h wanted]
      rfl
    simp only [← sorted]
    rfl

end EntitySearch
