import EntitySearch.Proofs.Search.Evaluation
import EntitySearch.Proofs.Search.Plan

/-!
# What a scope leaves out

A scope puts a layer of at most two standalone groups in front of a request. Beside a request that
leaves the reserved ids alone, the layer is a request of its own: it shares no id with the other
one (`apart_layerOf`), its groups stay standalone (`standalone_layerOf`), and its filter accepts
the documents in the scope (`accepts_layer`). So the filter of the scoped request is the
conjunction of the two (`filter_apply`).

All of this is about the entity type as the options spell it, and the search is about that name
without the white space around it. With white space around the name, the layer has to be empty:
what is in it would be compared over another type than the one that is searched, and such a
comparison is refused (`groups_layer_eq_nil`). A search that succeeds then has no scope at all.
This is the second case in `searchScoped_page`, and `searchScoped_page_deletedTask` finds a deleted
entity in this way.
-/

namespace EntitySearch

/-- A name that is the same without the white space around it, up to the case of letters, has none.
-/
theorem Text.trimmed_eq_of_same {name : String}
    (same : Text.sameIgnoringCase name (Text.trimmed name)) : Text.trimmed name = name := by
  have lower : Text.lower name.toList = Text.lower (Text.trim name.toList) := by
    simpa [Text.sameIgnoringCase, Text.equalsIgnoringCase, Text.trimmed] using same
  -- lower case keeps the number of characters, so trimming has taken none away
  have length : name.toList.length = (Text.trim name.toList).length := by
    simpa [Text.lower] using congrArg List.length lower
  have whole := (Text.trim_sublist name.toList).eq_of_length length.symm
  rw [Text.trimmed, whole, String.ofList_toList]

namespace Scope

/-! ### The layer of a scope -/

/-- The user whose entities a scope keeps over an entity type, if it leaves others out. -/
def owner? (scope : Scope) (registry : Registry) (entity : String) (request : Request) :
    Option Uuid :=
  scope.user.filter fun _ => request.ownerScoped && hasOwners registry entity

/-- The criterion that a user is among the owners. -/
def ownerCriterion (ids : Ids) (entity : String) (user : Uuid) : Criterion :=
  ⟨ids.owner, entity, Request.ownerPath, .equals, .text user.text⟩

/-- The criterion that an entity is marked as not deleted. -/
def falseCriterion (ids : Ids) (entity : String) : Criterion :=
  ⟨ids.isFalse, entity, Request.deletedField, .equals, .bool false⟩

/-- The criterion that an entity is not marked at all. -/
def nullCriterion (ids : Ids) (entity : String) : Criterion :=
  ⟨ids.isNull, entity, Request.deletedField, .isNull, .null⟩

/-- A layer with a group for the owner and a group for the mark of deletion, as far as wanted. -/
def layerOf (owner : Option Uuid) (deletable : Bool) (ids : Ids) (entity : String)
    (allowed : Bool) : Request where
  groups :=
    (owner.toList.map fun _ => ⟨Request.ownerGroup, some .and, [ids.owner]⟩) ++
      if deletable then [⟨Request.deletedGroup, some .or, [ids.isFalse, ids.isNull]⟩] else []
  criteria :=
    owner.toList.map (ownerCriterion ids entity) ++
      if deletable then [falseCriterion ids entity, nullCriterion ids entity] else []
  ownerScoped := allowed

theorem ownerRequest_eq (scope : Scope) (registry : Registry) (ids : Ids) (entity : String)
    {request : Request} (free : request.hasGroup Request.ownerGroup = false) :
    scope.ownerRequest registry ids entity request =
      layerOf (scope.owner? registry entity request) false ids entity request.ownerScoped := by
  obtain ⟨user⟩ := scope
  cases user with
  | none => rfl
  | some user =>
    -- the group is left out by the scope without owners, and by the request that does not allow it
    rw [ownerRequest, owner?, Option.filter_some]
    simp only [free, Bool.not_false, Bool.and_true]
    cases owners : hasOwners registry entity with
    | false =>
      rw [Bool.and_false]
      rfl
    | true =>
      cases allowed : request.ownerScoped with
      | false => rfl
      | true => rfl

/-- What is in the layer of a scope, when the request brings no owner group of its own. -/
theorem layer_eq (scope : Scope) (registry : Registry) (ids : Ids) (entity : String)
    {request : Request} (free : request.hasGroup Request.ownerGroup = false) :
    scope.layer registry ids entity request =
      layerOf (scope.owner? registry entity request) (isDeletable registry entity) ids entity
        request.ownerScoped := by
  rw [layer, ownerRequest_eq scope registry ids entity free]
  cases isDeletable registry entity with
  | false => rfl
  | true =>
    cases scope.owner? registry entity request with
    | none => rfl
    | some user => rfl

/-! ### The layer beside a request -/

/-- The ids of a scope. -/
def Ids.all (ids : Ids) : List String := [ids.owner, ids.isFalse, ids.isNull]

/-- **New ids**: different from one another and not used by a request for its criteria. -/
structure Ids.Fresh (ids : Ids) (request : Request) : Prop where
  distinct : ids.all.Nodup
  unused : ∀ id ∈ ids.all, ¬ request.UsesCriterion id

section Layer

variable {owner : Option Uuid} {deletable : Bool} {ids : Ids} {entity : String} {allowed : Bool}

theorem mem_groups_layerOf {group : Group}
    (mem : group ∈ (layerOf owner deletable ids entity allowed).groups) :
    owner.isSome ∧ group = ⟨Request.ownerGroup, some .and, [ids.owner]⟩ ∨
      deletable ∧ group = ⟨Request.deletedGroup, some .or, [ids.isFalse, ids.isNull]⟩ := by
  rcases List.mem_append.1 mem with mem | mem
  · obtain ⟨user, same, rfl⟩ := List.mem_map.1 mem
    rw [Option.mem_toList] at same
    exact Or.inl ⟨Option.isSome_of_mem same, rfl⟩
  · split at mem
    · next wanted => exact Or.inr ⟨wanted, List.mem_singleton.1 mem⟩
    · cases mem

theorem mem_criteria_layerOf {criterion : Criterion}
    (mem : criterion ∈ (layerOf owner deletable ids entity allowed).criteria) :
    criterion.id ∈ ids.all ∧ criterion.entity = entity := by
  rcases List.mem_append.1 mem with mem | mem
  · obtain ⟨user, _, rfl⟩ := List.mem_map.1 mem
    exact ⟨by simp [ownerCriterion, Ids.all], rfl⟩
  · split at mem
    · rcases List.mem_pair.1 mem with rfl | rfl
      · exact ⟨by simp [falseCriterion, Ids.all], rfl⟩
      · exact ⟨by simp [nullCriterion, Ids.all], rfl⟩
    · cases mem

theorem not_lists_layerOf (k j : String) :
    ¬ (layerOf owner deletable ids entity allowed).Lists k j := by
  rintro ⟨group, declared, _⟩
  cases declared

/-- The layer of a scope has nothing in common with a request that leaves the reserved ids alone. -/
theorem apart_layerOf {request : Request} (owned : ¬ request.Uses Request.ownerGroup)
    (kept : ¬ request.Uses Request.deletedGroup) (fresh : ids.Fresh request) :
    (layerOf owner deletable ids entity allowed).Apart request where
  -- the layer lists criteria only, under the two reserved ids
  ids id used := by
    rcases used with (declared | declared) | ⟨k, listed⟩
    · cases declared
    · obtain ⟨group, mem, rfl⟩ := Request.hasGroup_iff.1 declared
      rcases mem_groups_layerOf mem with ⟨_, rfl⟩ | ⟨_, rfl⟩
      · exact owned
      · exact kept
    · exact absurd listed (not_lists_layerOf k id)
  -- its criteria are the fresh ones
  criteria id used := by
    refine fresh.unused id ?_
    rcases used with ⟨criterion, mem, rfl⟩ | ⟨group, mem, listed⟩
    · exact (mem_criteria_layerOf mem).1
    · rcases mem_groups_layerOf mem with ⟨_, rfl⟩ | ⟨_, rfl⟩
      · rw [List.mem_singleton.1 listed]
        simp [Ids.all]
      · rcases List.mem_pair.1 listed with rfl | rfl <;> simp [Ids.all]

/-- The groups of a layer are standalone. -/
theorem standalone_layerOf : (layerOf owner deletable ids entity allowed).standalone =
    (layerOf owner deletable ids entity allowed).groups := by
  cases owner with
  | none =>
    cases deletable with
    | false => rfl
    | true => rfl
  | some user =>
    cases deletable with
    | false => rfl
    | true => rfl

/-- The tree of a layer holds when both of its groups do. -/
theorem holds_layerOf {tree : Filter String} (valuation : String → Bool)
    (h : (layerOf owner deletable ids entity allowed).compile = .ok tree) :
    tree.holds valuation =
      ((owner.all fun _ => valuation ids.owner) &&
        (!deletable || (valuation ids.isFalse || valuation ids.isNull))) := by
  obtain ⟨_, _, roots, rooted, rfl⟩ := Request.compile_eq_ok_iff.1 h
  obtain rfl := rooted.unique (Request.Rooted.none rfl)
  rw [Request.holds_conjoin, standalone_layerOf]
  cases owner with
  | none => cases deletable <;> simp [layerOf, Group.filter, Connective.combine]
  | some user => cases deletable <;> simp [layerOf, Group.filter, Connective.combine]

theorem ownerCriterion_mem {user : Uuid} :
    ownerCriterion ids entity user ∈ (layerOf (some user) deletable ids entity allowed).criteria :=
  List.mem_cons_self

theorem falseCriterion_mem :
    falseCriterion ids entity ∈ (layerOf owner true ids entity allowed).criteria :=
  List.mem_append_right _ List.mem_cons_self

theorem nullCriterion_mem :
    nullCriterion ids entity ∈ (layerOf owner true ids entity allowed).criteria :=
  List.mem_append_right _ (List.mem_cons_of_mem _ List.mem_cons_self)

theorem nodup_layerOf (distinct : ids.all.Nodup) :
    ((layerOf owner deletable ids entity allowed).criteria.map Criterion.id).Nodup := by
  -- the ids of the criteria are some of the ids of the scope, in the same order
  refine distinct.sublist ?_
  cases owner with
  | none => cases deletable <;> simp [layerOf, falseCriterion, nullCriterion, Ids.all]
  | some user =>
    cases deletable <;> simp [layerOf, ownerCriterion, falseCriterion, nullCriterion, Ids.all]

end Layer

/-! ### The filter of a request in a scope -/

/-- **The documents in a scope** over an entity type: the user is among the owners, if the request
allows the scope to ask for it and the type has owners, and the mark of deletion is false or
missing, if the type has one. -/
def admits (scope : Scope) (registry : Registry) (config : Config) (ids : Ids) (entity : String)
    (request : Request) (document : Json) : Bool :=
  ((scope.owner? registry entity request).all fun user =>
      (ownerCriterion ids entity user).satisfiedBy registry config entity document) &&
    (!isDeletable registry entity ||
      ((falseCriterion ids entity).satisfiedBy registry config entity document ||
        (nullCriterion ids entity).satisfiedBy registry config entity document))

section Filter

variable {scope : Scope} {registry : Registry} {config : Config} {ids : Ids} {entity : String}
  {request : Request}

/-- **The filter of a layer** over the entity type for which it is made accepts the documents in the
scope. -/
theorem accepts_layer {filter : Filter Comparison}
    (free : request.hasGroup Request.ownerGroup = false) (distinct : ids.all.Nodup)
    (h : (scope.layer registry ids entity request).filter registry config entity = .ok filter)
    (document : Json) :
    filter.accepts document = scope.admits registry config ids entity request document := by
  rw [layer_eq scope registry ids entity free] at h
  obtain ⟨⟨tree, compiles⟩, _⟩ := Request.filter_isOk_iff.1 ⟨filter, h⟩
  rw [Request.accepts_filter h compiles, holds_layerOf _ compiles, admits]
  -- the owner on the one side, and on the other one the two criteria about deletion
  congr 1
  · cases scope.owner? registry entity request with
    | none => rfl
    | some user => exact Request.truth_of_mem (nodup_layerOf distinct) ownerCriterion_mem document
  · cases isDeletable registry entity with
    | false => rfl
    | true =>
      congr 2
      · exact Request.truth_of_mem (nodup_layerOf distinct) falseCriterion_mem document
      · exact Request.truth_of_mem (nodup_layerOf distinct) nullCriterion_mem document

/-- **White space around the name of an entity type** leaves nothing in a layer that has a filter:
its criteria are about the type as it is spelled, which is not the type that is searched. -/
theorem groups_layer_eq_nil {filter : Filter Comparison}
    (free : request.hasGroup Request.ownerGroup = false)
    (named : entity ≠ "") (spaced : entity ≠ Text.trimmed entity)
    (h : (scope.layer registry ids entity request).filter registry config (Text.trimmed entity) =
      .ok filter) :
    (scope.layer registry ids entity request).groups = [] := by
  obtain ⟨_, all⟩ := Request.filter_isOk_iff.1 ⟨filter, h⟩
  rw [layer_eq scope registry ids entity free] at all ⊢
  -- every group of a layer lists a criterion
  refine List.eq_nil_iff_forall_not_mem.2 fun group mem => ?_
  obtain ⟨id, listed⟩ : ∃ id, id ∈ group.criteria := by
    rcases mem_groups_layerOf mem with ⟨_, rfl⟩ | ⟨_, rfl⟩
    · exact ⟨ids.owner, List.mem_cons_self⟩
    · exact ⟨ids.isFalse, List.mem_cons_self⟩
  -- the criterion that the group lists has been compared, so it is about the type searched
  obtain ⟨_, criterion, found, made⟩ := all group mem id listed
  have about := Criterion.isAbout_of_comparison made
  rw [Criterion.isAbout, (mem_criteria_layerOf (List.mem_of_find?_eq_some found)).2] at about
  have same : Text.sameIgnoringCase entity (Text.trimmed entity) := by simpa [named] using about
  exact spaced (Text.trimmed_eq_of_same same).symm

/-- A layer without groups leaves everything in. -/
theorem accepts_of_groups_eq_nil {searched : String} {filter : Filter Comparison}
    (free : request.hasGroup Request.ownerGroup = false)
    (nothing : (scope.layer registry ids entity request).groups = [])
    (h : (scope.layer registry ids entity request).filter registry config searched = .ok filter)
    (document : Json) : filter.accepts document = true := by
  rw [layer_eq scope registry ids entity free] at h nothing
  obtain ⟨⟨tree, compiles⟩, _⟩ := Request.filter_isOk_iff.1 ⟨filter, h⟩
  rw [Request.accepts_filter h compiles]
  obtain ⟨_, _, roots, rooted, rfl⟩ := Request.compile_eq_ok_iff.1 compiles
  obtain rfl := rooted.unique (Request.Rooted.none rfl)
  rw [standalone_layerOf, nothing]
  rfl

/-- **The filter of a request in a scope** accepts what the filter of the request accepts and what
is in the scope. The scope is made for the entity type as it is spelled, so white space around the
name takes all of it away. -/
theorem filter_apply {filter : Filter Comparison} (owned : ¬ request.Uses Request.ownerGroup)
    (kept : ¬ request.Uses Request.deletedGroup) (fresh : ids.Fresh request)
    (named : Text.trimmed entity ≠ "")
    (h : (scope.apply registry ids entity request).filter registry config (Text.trimmed entity) =
      .ok filter) :
    ∃ inner, request.filter registry config (Text.trimmed entity) = .ok inner ∧
      ∀ document, filter.accepts document =
        ((entity ≠ Text.trimmed entity ||
            scope.admits registry config ids entity request document) &&
          inner.accepts document) := by
  have free : request.hasGroup Request.ownerGroup = false := by
    rw [← Bool.not_eq_true]
    exact fun declared => owned (Or.inl (Or.inr declared))
  -- the layer has no merged groups, so its filter can be taken off
  have layered := layer_eq scope registry ids entity free
  have apart : (scope.layer registry ids entity request).Apart request :=
    layered ▸ apart_layerOf owned kept fresh
  have plain : (scope.layer registry ids entity request).merged.entries = [] := by
    rw [layered]
    rfl
  obtain ⟨outer, inner, made, made', both⟩ := Request.filter_append apart plain h
  refine ⟨inner, made', fun document => ?_⟩
  rw [both document]
  congr 1
  -- with white space around the name the layer is empty, as it has a filter
  by_cases same : entity = Text.trimmed entity
  · rw [← same] at made
    rw [accepts_layer free fresh.distinct made document]
    simp [← same]
  · have spelled : entity ≠ "" := by
      rintro rfl
      exact named rfl
    rw [accepts_of_groups_eq_nil free (groups_layer_eq_nil free spelled same made) made document]
    simp [same]

end Filter

end Scope

namespace Service

/-! ### Searching within a scope -/

variable {service : Service} {scope : Scope} {ids : Scope.Ids} {request : Request}
  {options : Options}

/-- **A plan within a scope** is the plan for the request alone with another filter, which tests the
scope besides, unless there is white space around the name of the entity type. -/
theorem plan_of_planScoped {plan : Plan} (owned : ¬ request.Uses Request.ownerGroup)
    (kept : ¬ request.Uses Request.deletedGroup) (fresh : ids.Fresh request)
    (h : service.planScoped scope ids request options = .ok plan) :
    ∃ spelled inner, options.entity = some spelled ∧
      plan.options.entity = Text.trimmed spelled ∧
      service.plan request options = .ok { plan with filter := inner } ∧
      ∀ document, plan.filter.accepts document =
        ((spelled ≠ Text.trimmed spelled ||
            scope.admits service.registry service.config ids spelled request document) &&
          inner.accepts document) := by
  obtain ⟨narrowed, applied, planned⟩ := Outcome.bind_eq_ok_iff.1 h
  obtain ⟨completed, made, _⟩ := plan_eq_ok_iff.1 planned
  obtain ⟨spelled, given, trimmed, named⟩ := Options.entity_of_complete completed
  rw [Service.narrowed, given] at applied
  obtain rfl := Except.ok.inj applied
  -- the scope goes by the name as it is spelled, and the filter by the trimmed one
  rw [trimmed] at named
  rw [trimmed] at made
  obtain ⟨inner, filtered, accepts⟩ := Scope.filter_apply owned kept fresh named made
  rw [← trimmed] at filtered
  exact ⟨spelled, inner, given, trimmed, plan_with_filter planned filtered, accepts⟩

/-- **What a search within a scope finds.** Whenever it succeeds, so does the search without the
scope, and both are planned alike. If the options name the entity type without white space around
it, the scoped search finds exactly those matches of the other search that are in the scope, in the
same order. With white space around the name it finds all of them. -/
theorem searchScoped_page {store : MemoryStore} {page : Page}
    (owned : ¬ request.Uses Request.ownerGroup) (kept : ¬ request.Uses Request.deletedGroup)
    (fresh : ids.Fresh request)
    (h : service.searchScoped store scope ids request options = .ok page) :
    ∃ spelled plan, options.entity = some spelled ∧ plan.options.entity = Text.trimmed spelled ∧
      service.plan request options = .ok plan ∧
      service.search store request options = .ok (plan.page (store.matching plan)) ∧
      page = plan.page (if spelled = plan.options.entity then
          (store.matching plan).filter fun record =>
            scope.admits service.registry service.config ids plan.options.entity request
              record.document
        else store.matching plan) := by
  obtain ⟨whole, planned, run⟩ := Outcome.bind_eq_ok_iff.1 h
  obtain ⟨spelled, inner, given, trimmed, plain, accepts⟩ :=
    plan_of_planScoped owned kept fresh planned
  obtain ⟨narrowed, _, planned⟩ := Outcome.bind_eq_ok_iff.1 planned
  refine ⟨spelled, { whole with filter := inner }, given, trimmed, plain, ?_, ?_⟩
  · exact Outcome.bind_eq_ok_iff.2 ⟨_, plain, run_eq store plain⟩
  · rw [run_eq store planned] at run
    obtain rfl := Except.ok.inj run
    -- the pages of both plans differ in the matches only
    change whole.page (store.accepted whole.options.entity whole.filter) = whole.page _
    congr 1
    rw [store.accepted_and whole.options.entity accepts, trimmed]
    split
    · next same => simp [MemoryStore.matching, trimmed, ← same]
    · next spaced => simp [MemoryStore.matching, trimmed, spaced]

/-- A service for tasks, which can be marked as deleted. -/
def ofTasks : Service where
  registry := ⟨NameMap.empty.insert "Task" ⟨"Task", none, [⟨"id", .text⟩, ⟨"deleted", .boolean⟩]⟩⟩

/-- A task that is marked as deleted. -/
def deletedTask : Record := ⟨"Task", "1", .object [("deleted", .bool true), ("id", .text "1")]⟩

/-- The store of `deletedTask`. -/
def deletedTasks : MemoryStore := MemoryStore.empty.upsert deletedTask

/-- The plan for all tasks. -/
def allTasks : Plan where
  options := ⟨"Task", 0, 50, "id", .ascending, none, false, by decide⟩
  filter := .all
  fetch := some ⟨"Task", ⟨"Task", none, ["id"], ⟨"id", .text⟩⟩, .ascending, 0, 50, none⟩

theorem searchScoped_page_deletedTask :
    ofTasks.searchScoped deletedTasks {} ⟨"1", "2", "3"⟩ .empty (ofTasks.options " Task ") =
        .ok ⟨[deletedTask], 1, 0, 50⟩ ∧
      Scope.admits {} ofTasks.registry ofTasks.config ⟨"1", "2", "3"⟩ "Task" .empty
        deletedTask.document = false ∧
      ∃ spelled plan, (ofTasks.options " Task ").entity = some spelled ∧
        plan.options.entity = Text.trimmed spelled ∧
        ofTasks.plan .empty (ofTasks.options " Task ") = .ok plan ∧
        ofTasks.search deletedTasks .empty (ofTasks.options " Task ") =
          .ok (plan.page (deletedTasks.matching plan)) ∧
        ⟨[deletedTask], 1, 0, 50⟩ = plan.page (if spelled = plan.options.entity then
            (deletedTasks.matching plan).filter fun record =>
              Scope.admits {} ofTasks.registry ofTasks.config ⟨"1", "2", "3"⟩ plan.options.entity
                .empty record.document
          else deletedTasks.matching plan) := by
  -- the scope adds nothing, so the plan is the one for the empty request
  have planned : ofTasks.plan .empty (ofTasks.options " Task ") = .ok allTasks := by
    have filtered : ofTasks.filter .empty "Task" = .ok .all := by cbv
    exact plan_eq_ok_iff.2 ⟨by rfl, filtered, Or.inr ⟨rfl, _, by rfl, rfl⟩⟩
  have found : ofTasks.searchScoped deletedTasks {} ⟨"1", "2", "3"⟩ .empty
      (ofTasks.options " Task ") = .ok ⟨[deletedTask], 1, 0, 50⟩ := by
    refine Outcome.bind_eq_ok_iff.2 ⟨allTasks, planned, ?_⟩
    rw [run_eq deletedTasks planned]
    have one : deletedTasks.matching allTasks = [deletedTask] := by rfl
    rw [one, Plan.page]
    simp only [allTasks, List.mergeSort_singleton]
    rfl
  have out : Scope.admits {} ofTasks.registry ofTasks.config ⟨"1", "2", "3"⟩ "Task" .empty
      deletedTask.document = false := by
    decide +kernel
  have unused : ∀ id, ¬ Request.empty.Uses id := by
    rintro id ((declared | declared) | ⟨k, group, declared, _⟩) <;> cases declared
  have fresh : Scope.Ids.Fresh ⟨"1", "2", "3"⟩ Request.empty := by
    refine ⟨by decide, fun id _ used => ?_⟩
    rcases used with ⟨criterion, mem, _⟩ | ⟨group, mem, _⟩ <;> cases mem
  exact ⟨found, out, searchScoped_page (unused _) (unused _) fresh found⟩

end Service

end EntitySearch
