import EntitySearch.Proofs.Metadata.Names
import EntitySearch.Proofs.Query.Filter
import EntitySearch.Proofs.Search.Scope
import Mathlib

/-!
# Searching for a query within a scope

A query can be any text, and none of them leads out of a scope. What a query means is said on its
tree: a condition is satisfied as its comparison is, and a level as its connective says
(`Expression.satisfiedBy`). The filter of its request accepts exactly the documents that satisfy it
(`accepts_filter_ofExpression`), for the tree behind the filter is that of the query, and the
numbered criteria are found under their numbers.

A scope could be evaded in three ways, and a query has none of them: to use one of the reserved ids
(`not_uses_of_ofExpression`), to switch the owner group off (`ownerScoped_ofExpression`), or to
spell the entity type in a way that the scope does not know. The last one is ruled out by the names
under which entity types are registered, which have no white space around them
(`Registry.trimmed_of_registered`). So `searchScoped_query` needs no more than that the entity type
is registered.
-/

namespace EntitySearch

/-! ### The meaning of a query -/

/-- Whether a document satisfies a condition: its comparison, as that of a criterion. -/
def Query.Condition.satisfiedBy (condition : Query.Condition) (registry : Registry)
    (config : Config) (entity : String) (document : Json) : Bool :=
  Criterion.satisfiedBy ⟨"", entity, condition.path, condition.operation, condition.value⟩
    registry config entity document

section Meaning

variable (registry : Registry) (config : Config) (entity : String) (document : Json)

mutual

/-- **Whether a document satisfies a query.** -/
def Expression.satisfiedBy : Expression → Bool
  | .condition c => c.satisfiedBy registry config entity document
  | .group connective children => connective.combine (Expression.satisfactions children)

/-- Whether a document satisfies each query of a list. -/
def Expression.satisfactions : List Expression → List Bool
  | [] => []
  | child :: rest => Expression.satisfiedBy child :: Expression.satisfactions rest

end

end Meaning

namespace Request

variable {registry : Registry} {config : Config} {entity : String} {document : Json}

variable {valuation : String → Bool}

/-- A valuation that gives the numbered criteria of some conditions the truth they have. -/
def Faithful (registry : Registry) (config : Config) (entity : String) (document : Json)
    (valuation : String → Bool) (start : Nat) (conditions : List Query.Condition) : Prop :=
  ∀ criterion ∈ numberedCriteria entity start conditions,
    valuation criterion.id = criterion.satisfiedBy registry config entity document

theorem faithful_append {start : Nat} {a b : List Query.Condition} :
    Faithful registry config entity document valuation start (a ++ b) ↔
      Faithful registry config entity document valuation start a ∧
        Faithful registry config entity document valuation (start + a.length) b := by
  simp only [Faithful, numberedCriteria_append, List.mem_append, or_imp, forall_and]

mutual

/-- **The filter of a query** holds when the query is satisfied. -/
theorem holds_toFilter {start : Nat} {expression : Expression}
    (faithful : Faithful registry config entity document valuation start expression.conditions) :
    (expression.toFilter start).holds valuation =
      expression.satisfiedBy registry config entity document := by
  cases expression with
  | condition condition =>
    have first := faithful _ List.mem_cons_self
    rw [Expression.toFilter, Filter.holds_and, List.all_cons, List.all_nil, Bool.and_true,
      Filter.holds_leaf]
    exact first
  | group connective children =>
    rw [Expression.toFilter, Connective.holds_join, holds_toFilters faithful]
    rfl

theorem holds_toFilters {start : Nat} {expressions : List Expression}
    (faithful : Faithful registry config entity document valuation start
      (Expression.conditionsOf expressions)) :
    (Expression.toFilters start expressions).map (Filter.holds valuation) =
      Expression.satisfactions registry config entity document expressions := by
  cases expressions with
  | nil => rfl
  | cons child rest =>
    obtain ⟨first, others⟩ := faithful_append.1 faithful
    rw [Expression.toFilters, List.map_cons, holds_toFilter first, holds_toFilters others]
    rfl

end

theorem criterionId_injective : Function.Injective criterionId := by
  intro m n same
  exact natText_injective (String.append_right_inj "C" |>.1 same)

/-- The criteria of a query have different ids. -/
theorem nodup_numberedCriteria (entity : String) (start : Nat) (conditions : List Query.Condition) :
    ((numberedCriteria entity start conditions).map Criterion.id).Nodup := by
  have ids : (numberedCriteria entity start conditions).map Criterion.id =
      (List.range' (start + 1) conditions.length).map criterionId := by
    rw [numberedCriteria, List.map_map, ← List.zipIdx_map_snd, List.map_map]
    rfl
  rw [ids]
  exact List.Nodup.map criterionId_injective List.nodup_range'

theorem ofQuery_eq_ok_iff {strict : Bool} {query : String} {request : Request} :
    ofQuery strict query entity = .ok request ↔
      ∃ expression, Query.read strict query = .ok expression ∧
        ofExpression entity expression = .ok request := by
  rw [ofQuery]
  constructor
  · intro h
    split at h
    · cases h
    · next expression read =>
      split at h
      · cases h
      · next made =>
        obtain rfl := Except.ok.inj h
        exact ⟨expression, read, made⟩
  · rintro ⟨expression, read, made⟩
    simp only [read, made]

variable {expression : Expression} {request : Request}

/-- **The request of a query** accepts the documents that satisfy the query. -/
theorem accepts_filter_ofExpression (made : ofExpression entity expression = .ok request)
    {filter : Filter Comparison} (h : request.filter registry config entity = .ok filter)
    (document : Json) :
    filter.accepts document = expression.satisfiedBy registry config entity document := by
  obtain ⟨request', made', criteria, _, compiles⟩ := ofExpression_compiles entity expression
  obtain rfl : request' = request := Except.ok.inj (made'.symm.trans made)
  rw [accepts_filter h compiles]
  have distinct : (request'.criteria.map Criterion.id).Nodup :=
    criteria ▸ nodup_numberedCriteria entity 0 expression.conditions
  exact holds_toFilter fun criterion mem => truth_of_mem distinct (criteria ▸ mem) document

/-! ### No way out of a scope -/

/-- **A query uses no other ids** than the numbered ones and that of its root. -/
theorem not_uses_of_ofExpression (made : ofExpression entity expression = .ok request) {id : String}
    (root : id ≠ finalGroup) (unnumbered : ∀ n, id ≠ groupId n) : ¬ request.Uses id := by
  have declares : ∀ j, request.Declares j → id ≠ j := by
    rintro j declared rfl
    rcases ofExpression_declares made declared with same | ⟨n, same⟩
    · exact root same
    · exact unnumbered n same
  obtain ⟨request', made', _, _, compiles⟩ := ofExpression_compiles entity expression
  obtain rfl : request' = request := Except.ok.inj (made'.symm.trans made)
  -- what is listed in a graph that compiles is declared
  obtain ⟨_, unfolds, _⟩ := compile_eq_ok_iff.1 compiles
  rintro (declared | ⟨k, listed⟩)
  · exact declares id declared rfl
  · exact declares id (declares_of_unfolds unfolds listed) rfl

/-- An id that does not start with the letter of numbered groups has no number. -/
theorem ne_groupId {id : String} (other : id.toList.head? ≠ some 'G') (n : Nat) :
    id ≠ groupId n := by
  rintro rfl
  exact other (by simp [groupId])

end Request

/-! ### Names of entity types -/

namespace Registry

/-- **The name of a registered entity type** has no white space around it. -/
theorem trimmed_of_registered {entities : List Entity} {registry : Registry}
    (built : ofEntities entities = .ok registry) {name : String}
    (registered : (registry.entity? name).isSome) : Text.trimmed name = name := by
  obtain ⟨entity, found⟩ := Option.isSome_iff_exists.1 registered
  exact ((WellNamed.ofEntities built).isIdentifier found).trimmed

end Registry

/-! ### Searching -/

/-- **The documents in a scope** over an entity type: the user is among the owners, if there is a
user and the type has owners, and the mark of deletion is false or missing, if the type has one. -/
def Scope.covers (scope : Scope) (registry : Registry) (config : Config) (ids : Scope.Ids)
    (entity : String) (document : Json) : Bool :=
  (scope.user.all fun user => !Scope.hasOwners registry entity ||
      (Scope.ownerCriterion ids entity user).satisfiedBy registry config entity document) &&
    (!Scope.isDeletable registry entity ||
      ((Scope.falseCriterion ids entity).satisfiedBy registry config entity document ||
        (Scope.nullCriterion ids entity).satisfiedBy registry config entity document))

/-- A request that does not switch the owner group off leaves a scope as it is. -/
theorem Scope.admits_eq_covers (scope : Scope) (registry : Registry) (config : Config)
    (ids : Scope.Ids) (entity : String) {request : Request} (allowed : request.ownerScoped = true)
    (document : Json) :
    scope.admits registry config ids entity request document =
      scope.covers registry config ids entity document := by
  rw [admits, covers, owner?, allowed, Bool.true_and]
  cases scope.user with
  | none => rfl
  | some user => cases hasOwners registry entity <;> rfl

namespace Service

variable {service : Service} {scope : Scope} {ids : Scope.Ids} {options : Options}

/-- **No query leads out of a scope.** Whatever text is searched for, a search within a scope that
succeeds finds exactly the entities that satisfy the query and that are in the scope. -/
theorem searchScoped_query {entities : List Entity} {strict : Bool} {query entity : String}
    {request : Request} {store : MemoryStore} {page : Page}
    (built : Registry.ofEntities entities = .ok service.registry)
    (registered : (service.registry.entity? entity).isSome)
    (parsed : Request.ofQuery strict query entity = .ok request)
    (fresh : ids.Fresh request) (about : options.entity = some entity)
    (found : service.searchScoped store scope ids request options = .ok page) :
    ∃ expression plan, Query.read strict query = .ok expression ∧
      service.plan request options = .ok plan ∧ plan.options.entity = entity ∧
      page = plan.page ((store.recordsOf entity).filter fun record =>
        expression.satisfiedBy service.registry service.config entity record.document &&
          scope.covers service.registry service.config ids entity record.document) := by
  obtain ⟨expression, read, made⟩ := Request.ofQuery_eq_ok_iff.1 parsed
  -- groups of a query are numbered, so they have neither of the reserved ids
  have owned : ¬ request.Uses Request.ownerGroup :=
    Request.not_uses_of_ofExpression made (by decide) (Request.ne_groupId (by decide))
  have kept : ¬ request.Uses Request.deletedGroup :=
    Request.not_uses_of_ofExpression made (by decide) (Request.ne_groupId (by decide))
  obtain ⟨whole, planned, run⟩ := Outcome.bind_eq_ok_iff.1 found
  obtain ⟨spelled, inner, given, trimmed, plain, accepts⟩ :=
    plan_of_planScoped owned kept fresh planned
  obtain rfl : spelled = entity := Option.some.inj (given.symm.trans about)
  -- a registered name has no white space around it, so the scope is about the type searched
  have exact : Text.trimmed spelled = spelled := Registry.trimmed_of_registered built registered
  rw [exact] at trimmed
  obtain ⟨_, filtered, _⟩ := plan_eq_ok_iff.1 plain
  refine ⟨expression, { whole with filter := inner }, read, plain, trimmed, ?_⟩
  obtain ⟨narrowed, _, planned⟩ := Outcome.bind_eq_ok_iff.1 planned
  rw [run_eq store planned] at run
  obtain rfl := Except.ok.inj run
  -- the plans have the same options, so their pages differ in the matches only
  change whole.page (store.accepted whole.options.entity whole.filter) = whole.page _
  rw [MemoryStore.accepted, trimmed]
  congr 1
  refine List.filter_congr fun record _ => ?_
  rw [accepts, exact, Request.accepts_filter_ofExpression made (trimmed ▸ filtered),
    Scope.admits_eq_covers _ _ _ _ _ (Request.ownerScoped_ofExpression made)]
  simp [Bool.and_comm]

/-- Users, and tasks with owners that can be marked as deleted. -/
def ownedEntities : List Entity :=
  [⟨"User", none, [⟨"id", .text⟩]⟩,
    ⟨"Task", none, [⟨"id", .text⟩, ⟨"a", .text⟩, ⟨"b", .text⟩, ⟨"c", .text⟩,
      ⟨"deleted", .boolean⟩, ⟨"owners", .relation "User" true⟩]⟩]

/-- A service for `ownedEntities`. -/
def ofOwnedTasks : Service where
  registry := ⟨ownedEntities.foldl (fun map entity => map.insert entity.name entity) .empty⟩

/-- A user. -/
def someUser : Uuid := ⟨List.replicate 32 1, rfl⟩

/-- A task with one owner and without any of the members that `nestedQuery` asks for. -/
def ownedTask (id owner : String) (deleted : Bool) : Record :=
  ⟨"Task", id, .object [("deleted", .bool deleted), ("id", .text id),
    ("owners", .array [.object [("id", .text owner)]])]⟩

/-- A task of the user, one that is deleted, and one of somebody else. -/
def ownedTasks : MemoryStore :=
  ((MemoryStore.empty.upsert (ownedTask "1" someUser.text false)).upsert
    (ownedTask "2" someUser.text true)).upsert (ownedTask "3" "nobody" false)

/-- The request of `nestedQuery` over tasks. -/
def nestedRequest : Request where
  groups := [⟨"G1", some .and, ["C1"]⟩, ⟨"G2", some .and, ["C2"]⟩, ⟨"G3", some .and, ["C3"]⟩]
  criteria :=
    [⟨"C1", "Task", "a", .isNull, .null⟩, ⟨"C2", "Task", "b", .isNull, .null⟩,
      ⟨"C3", "Task", "c", .isNull, .null⟩]
  merged :=
    (NameMap.empty.insert "G4" ⟨.or, ["G2", "G3"]⟩).insert Request.finalGroup ⟨.and, ["G1", "G4"]⟩

/-- `nestedRequest` in the scope of the user. -/
def nestedScoped : Request :=
  Scope.apply ⟨some someUser⟩ ofOwnedTasks.registry ⟨"u", "v", "w"⟩ "Task" nestedRequest

/-- The tree of `nestedScoped`. -/
def nestedScopedTree : Filter String :=
  .and [Request.nestedFilter, .and [.leaf "u"], .or [.leaf "v", .leaf "w"]]

/-- The plan for a filter of tasks. -/
def nestedPlan (filter : Filter Comparison) : Plan := { allTasks with filter := filter }

theorem compile_nestedScoped : nestedScoped.compile = .ok nestedScopedTree := by
  have merged : nestedScoped.compileMerged =
      .ok [(Request.finalGroup, Request.nestedFilter),
        ("G4", .or [.and [.leaf "C2"], .and [.leaf "C3"]])] := by cbv
  rw [Request.compile, merged]
  rfl

/-- All three tasks satisfy the query, and the scope leaves one of them. -/
theorem searchScoped_query_ownedTasks :
    Registry.ofEntities ownedEntities = .ok ofOwnedTasks.registry ∧
      (ofOwnedTasks.registry.entity? "Task").isSome ∧
      Request.ofQuery true Request.nestedQuery "Task" = .ok nestedRequest ∧
      Scope.Ids.Fresh ⟨"u", "v", "w"⟩ nestedRequest ∧
      ofOwnedTasks.searchScoped ownedTasks ⟨some someUser⟩ ⟨"u", "v", "w"⟩ nestedRequest
        (ofOwnedTasks.options "Task") = .ok ⟨[ownedTask "1" someUser.text false], 1, 0, 50⟩ ∧
      ∃ expression plan, Query.read true Request.nestedQuery = .ok expression ∧
        ofOwnedTasks.plan nestedRequest (ofOwnedTasks.options "Task") = .ok plan ∧
        plan.options.entity = "Task" ∧
        ⟨[ownedTask "1" someUser.text false], 1, 0, 50⟩ =
          plan.page ((ownedTasks.recordsOf "Task").filter fun record =>
            expression.satisfiedBy ofOwnedTasks.registry ofOwnedTasks.config "Task"
                record.document &&
              Scope.covers ⟨some someUser⟩ ofOwnedTasks.registry ofOwnedTasks.config ⟨"u", "v", "w"⟩
                "Task" record.document) := by
  have built : Registry.ofEntities ownedEntities = .ok ofOwnedTasks.registry := by rfl
  have registered : (ofOwnedTasks.registry.entity? "Task").isSome := by rfl
  have parsed : Request.ofQuery true Request.nestedQuery "Task" = .ok nestedRequest :=
    Request.ofQuery_eq_ok_iff.2 ⟨Request.nestedExpression, Request.read_nestedQuery, by rfl⟩
  have fresh : Scope.Ids.Fresh ⟨"u", "v", "w"⟩ nestedRequest := by
    refine ⟨by decide, fun id new used => ?_⟩
    simp only [Scope.Ids.all, List.mem_cons, List.not_mem_nil, or_false] at new
    simp only [Request.UsesCriterion, nestedRequest, List.mem_cons, List.not_mem_nil, or_false,
      exists_eq_or_imp, exists_eq_left] at used
    rcases new with rfl | rfl | rfl <;> simp at used
  have found : ofOwnedTasks.searchScoped ownedTasks ⟨some someUser⟩ ⟨"u", "v", "w"⟩ nestedRequest
      (ofOwnedTasks.options "Task") = .ok ⟨[ownedTask "1" someUser.text false], 1, 0, 50⟩ := by
    obtain ⟨known, made⟩ : ∃ known,
        nestedScoped.predicates (Criterion.predicate ofOwnedTasks.registry {} "Task" .ok) =
          .ok known := ⟨_, by rfl⟩
    have filtered : nestedScoped.filter ofOwnedTasks.registry {} "Task" =
        .ok (nestedScopedTree.substitute (Filter.ofId known)) :=
      Request.filterOf_eq_ok_iff.2 ⟨nestedScopedTree, known, compile_nestedScoped, made, rfl⟩
    have planned : ofOwnedTasks.plan nestedScoped (ofOwnedTasks.options "Task") =
        .ok (nestedPlan (nestedScopedTree.substitute (Filter.ofId known))) :=
      plan_eq_ok_iff.2 ⟨by rfl, filtered, Or.inr ⟨rfl, _, by cbv, rfl⟩⟩
    refine Outcome.bind_eq_ok_iff.2 ⟨_, planned, ?_⟩
    have one : ownedTasks.accepted "Task" (nestedScopedTree.substitute (Filter.ofId known)) =
        [ownedTask "1" someUser.text false] := by
      rw [MemoryStore.accepted]
      simp only [Request.accepts_filter filtered compile_nestedScoped]
      rfl
    rw [run_eq ownedTasks planned]
    change Except.ok ((nestedPlan (nestedScopedTree.substitute (Filter.ofId known))).page
      (ownedTasks.accepted "Task" (nestedScopedTree.substitute (Filter.ofId known)))) = _
    rw [one, Plan.page]
    simp only [nestedPlan, allTasks, List.mergeSort_singleton]
    rfl
  exact ⟨built, registered, parsed, fresh, found,
    searchScoped_query built registered parsed fresh rfl found⟩

end Service

end EntitySearch
