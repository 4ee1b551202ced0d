import EntitySearch.Proofs.Groups.Meaning
import EntitySearch.Proofs.Query.Numbering

/-!
# The filter of a query

A query that is read as a tree becomes a request, and the request compiles back into the tree: each
condition turns into its numbered criterion in a group of its own, and each level into its
connective over its parts (`ofQuery_compiles`). Neither the numbers nor the way through merged
groups leave a trace.

The walk that numbers a query ends with one loose id, its root. What is added here is the last
step. A query with several conditions has a merged group as its root, which is renamed to
`FINAL_GROUP`. Since nothing lists the root, the renaming moves one declaration and touches no
other (`rename_of_unlisted`), and since the root is the only loose id, no group is standalone.
-/

namespace EntitySearch

namespace Request

variable {request : Request}

/-! ### Renaming the root -/

theorem map_renamed_of_not_mem {old new : String} {members : List String} (h : old ∉ members) :
    members.map (renamed old new) = members := by
  refine (List.map_congr_left fun id mem => ?_).trans (List.map_id _)
  have other : id ≠ old := fun same => h (same ▸ mem)
  exact if_neg other

/-- **Renaming a merged group that nothing lists** moves its declaration. -/
theorem rename_of_unlisted {old new : String} {group : MergedGroup} (distinct : old ≠ new)
    (free : ¬ request.merged.contains new) (found : request.merged.get? old = some group)
    (unlisted : ∀ k, ¬ request.Lists k old) :
    ∃ moved, request.rename old new = .ok moved ∧ moved.groups = request.groups ∧
      moved.criteria = request.criteria ∧ ∀ id, moved.merged.get? id =
        if new = id then some group else if old = id then none else request.merged.get? id := by
  -- nothing lists the old id, so the members of all merged groups stay as they are
  have fixed : ∀ id declared, request.merged.get? id = some declared →
      ({ declared with members := declared.members.map (renamed old new) } : MergedGroup) =
        declared := by
    intro id declared look
    rw [map_renamed_of_not_mem fun mem => unlisted id ⟨declared, look, mem⟩]
  rw [rename, if_neg distinct, if_neg free, found]
  refine ⟨_, rfl, rfl, rfl, fun id => ?_⟩
  simp only [NameMap.get?_mapValues, NameMap.get?_insert, NameMap.get?_erase]
  -- the declaration is found under the new id, and no longer under the old one
  split
  · rw [Option.map_some, fixed old group found]
  · split
    · rfl
    · cases look : request.merged.get? id with
      | none => rfl
      | some declared => rw [Option.map_some, fixed id declared look]

/-- Renaming does not touch the owner flag. -/
theorem ownerScoped_rename {old new : String} {moved : Request}
    (h : request.rename old new = .ok moved) : moved.ownerScoped = request.ownerScoped := by
  rw [rename] at h
  split at h
  · rw [Except.ok.inj h]
  · split at h
    · cases h
    · split at h
      · cases h
      · rw [← Except.ok.inj h]

/-! ### The criteria of a query -/

mutual

/-- The leaves of the filter of a query are its criteria, from left to right. -/
theorem leaves_toFilter (entity : String) (start : Nat) (expression : Expression) :
    (expression.toFilter start).leaves =
      (numberedCriteria entity start expression.conditions).map Criterion.id := by
  cases expression with
  | condition condition => rfl
  | group connective children =>
    rw [Expression.toFilter, Connective.leaves_join]
    exact leaves_toFilters entity start children

theorem leaves_toFilters (entity : String) (start : Nat) (expressions : List Expression) :
    ((Expression.toFilters start expressions).map Filter.leaves).flatten =
      (numberedCriteria entity start (Expression.conditionsOf expressions)).map Criterion.id := by
  cases expressions with
  | nil => rfl
  | cons child rest =>
    rw [Expression.toFilters, List.map_cons, List.flatten_cons, Expression.conditionsOf,
      numberedCriteria_append, List.map_append, leaves_toFilter entity start child,
      leaves_toFilters entity _ rest]

end

/-! ### The request of a query -/

namespace Numbered

variable {entity : String} {made : Numbered}

theorem Given.ne_finalGroup {id : String} (h : made.Given id) : id ≠ finalGroup := by
  obtain ⟨n, _, rfl⟩ := h
  exact groupId_ne_finalGroup (n + 1)

/-- **A request in the making whose root has been renamed**: the declaration of the root stands
under the id of roots, and nothing else has changed. -/
structure Completed (made : Numbered) (root : String) (group : MergedGroup) (request : Request) :
    Prop where
  tidy : made.Tidy
  found : made.request.merged.get? root = some group
  unlisted : ∀ k, ¬ made.request.Lists k root
  groups : request.groups = made.request.groups
  criteria : request.criteria = made.request.criteria
  merged : ∀ id, request.merged.get? id =
    if finalGroup = id then some group else if root = id then none else made.request.merged.get? id

/-- Renaming the root completes a request. -/
theorem Tidy.rename_root (tidy : made.Tidy) {root : String} {group : MergedGroup}
    (found : made.request.merged.get? root = some group)
    (unlisted : ∀ k, ¬ made.request.Lists k root) :
    ∃ request, made.request.rename root finalGroup = .ok request ∧
      made.Completed root group request := by
  have used := fun id (declared : made.request.Declares id) =>
    (tidy.given id declared).ne_finalGroup
  have distinct := used root (Or.inl (NameMap.contains_of_get? found))
  obtain ⟨moved, renamed, groups, criteria, merged⟩ :=
    rename_of_unlisted distinct (fun declared => used _ (Or.inl declared) rfl) found unlisted
  exact ⟨moved, renamed, tidy, found, unlisted, groups, criteria, merged⟩

namespace Completed

variable {root : String} {group : MergedGroup}

/-- An id in use is not the id of roots. -/
theorem ne_finalGroup (h : made.Completed root group request) {id : String}
    (declared : made.request.Declares id) : id ≠ finalGroup :=
  (h.tidy.given id declared).ne_finalGroup

theorem get?_finalGroup (h : made.Completed root group request) :
    request.merged.get? finalGroup = some group := by
  rw [h.merged, if_pos rfl]

theorem hasGroup_iff (h : made.Completed root group request) {id : String} :
    request.hasGroup id ↔ made.request.hasGroup id := by
  rw [hasGroup, hasGroup, group?, group?, h.groups]

/-- The merged groups are those in use but the root, and the one of the id of roots. -/
theorem contains (h : made.Completed root group request) {id : String}
    (declared : request.merged.contains id) :
    id = finalGroup ∨ (made.request.merged.contains id ∧ id ≠ root) := by
  rw [NameMap.contains, h.merged] at declared
  split at declared
  · next same => exact Or.inl same.symm
  · split at declared
    · cases declared
    · next other => exact Or.inr ⟨declared, Ne.symm other⟩

/-- Below the root everything unfolds as before. -/
theorem keeps (h : made.Completed root group request) {id : String} {filter : Filter String}
    (unfolds : made.request.Unfolds id filter) (other : id ≠ root) : request.Unfolds id filter := by
  refine unfolds.transfer (fun id => id ≠ root ∧ id ≠ finalGroup) (fun id reached => ⟨?_, ?_⟩) ?_
    ⟨other, h.ne_finalGroup unfolds.declares⟩
  · rw [h.merged, if_neg reached.2.symm, if_neg reached.1.symm]
  · rw [group?, group?, h.groups]
  -- a member is not the root, which nothing lists, and it has been given its id by number
  · intro k j _ listed
    refine ⟨fun same => h.unlisted k (same ▸ listed), ?_⟩
    exact h.ne_finalGroup (declares_of_unfolds h.tidy.unfolds listed)

/-- The renamed root unfolds as the root did. -/
theorem unfolds_finalGroup (h : made.Completed root group request) {filter : Filter String}
    (unfolds : made.request.Unfolds root filter) : request.Unfolds finalGroup filter := by
  have found := h.found
  cases unfolds with
  | merged tree found' below =>
    -- the members are other groups than the root, so they unfold as before
    rw [found] at found'
    obtain rfl := Option.some.inj found'
    refine Unfolds.merged tree h.get?_finalGroup fun member mem => h.keeps (below member mem) ?_
    intro same
    exact h.unlisted root ⟨group, found, same ▸ mem⟩
  | group undeclared _ =>
    -- the root is a merged group
    rw [found] at undeclared
    cases undeclared

/-- What was listed still is. -/
theorem lists (h : made.Completed root group request) {k j : String}
    (listed : made.request.Lists k j) :
    ∃ k', request.Lists k' j := by
  obtain ⟨other, found, mem⟩ := listed
  by_cases same : root = k
  · subst same
    -- what the root listed is now listed under its new id
    rw [h.found] at found
    obtain rfl := Option.some.inj found
    exact ⟨finalGroup, group, h.get?_finalGroup, mem⟩
  · have distinct := h.ne_finalGroup (Or.inl (NameMap.contains_of_get? found))
    refine ⟨k, other, ?_, mem⟩
    rw [h.merged, if_neg (Ne.symm distinct), if_neg same, found]

/-- If only the root was loose, no group stands alone. -/
theorem not_isStandalone (h : made.Completed root group request)
    (loose : ∀ id, made.Loose id → id = root) (id : String) : ¬ request.IsStandalone id := by
  rintro ⟨declared, _, unlisted⟩
  rw [h.hasGroup_iff] at declared
  -- a group that nothing lists would be loose and thus the root, which is no group
  have listed : ∃ k, made.request.Lists k id := by
    by_contra none
    obtain rfl := loose id ⟨Or.inr declared, not_exists.1 none⟩
    exact h.tidy.apart id declared (NameMap.contains_of_get? h.found)
  obtain ⟨k, listed⟩ := listed
  obtain ⟨k', listed⟩ := h.lists listed
  exact unlisted k' listed

/-- No id is declared twice. -/
theorem nodup (h : made.Completed root group request) :
    (request.groups.map Group.id ++ request.merged.names).Nodup := by
  rw [List.nodup_append, h.groups]
  -- what remains is that no group has the id of a merged group
  refine ⟨h.tidy.once, NameMap.nodup_names _, ?_⟩
  rintro id mem _ mem' rfl
  obtain ⟨group, inside, same⟩ := List.mem_map.1 mem
  have declared : made.request.hasGroup id := Request.hasGroup_iff.2 ⟨group, inside, same⟩
  rcases h.contains (NameMap.contains_iff.2 mem') with same | ⟨merged, _⟩
  · exact h.ne_finalGroup (Or.inr declared) same
  · exact h.tidy.apart id declared merged

/-- **A completed request compiles** into the unfolding of its root. -/
theorem compile_eq (h : made.Completed root group request) {filter : Filter String}
    (unfolds : made.request.Unfolds root filter) (loose : ∀ id, made.Loose id → id = root) :
    request.compile = .ok filter := by
  -- every id is the root or unfolds as it did, and no group is left to stand alone
  have final := h.unfolds_finalGroup unfolds
  refine compile_eq_ok_iff.2 ⟨?_, ?_, [filter], ?_, ?_⟩
  · rw [h.groups, h.criteria]
    exact h.tidy.criteria
  · intro id declared
    rcases h.contains declared with rfl | ⟨declared, other⟩
    · exact ⟨filter, final⟩
    · obtain ⟨below, unfolds⟩ := h.tidy.unfolds id declared
      exact ⟨below, h.keeps unfolds other⟩
  · exact Rooted.root (NameMap.contains_of_get? h.get?_finalGroup) final
  · rw [standalone_eq_nil (h.not_isStandalone loose)]
    rfl

end Completed

end Numbered

/-- In the numbering of a level only the root is loose, for nothing is in use in the beginning. -/
theorem loose_group {entity : String} {connective : Connective} {children : List Expression}
    {id : String} :
    (Numbered.addExpression entity (.group connective children) {}).1.Loose id ↔
      id = (Numbered.addExpression entity (.group connective children) {}).2 := by
  have ⟨growth, _⟩ := Numbered.addExpression_growth entity (.group connective children) {}
    Numbered.Tidy.start
  rw [growth.loose, List.mem_singleton, or_iff_right]
  rintro ⟨declared | declared, _⟩
  · exact nomatch declared
  · exact nomatch declared

/-- The request of a level is its numbering with the root renamed. -/
theorem ofExpression_completed (entity : String) (connective : Connective)
    (children : List Expression) :
    ∃ group request, ofExpression entity (.group connective children) = .ok request ∧
      (Numbered.addExpression entity (.group connective children) {}).1.Completed
        (Numbered.addExpression entity (.group connective children) {}).2 group request := by
  have ⟨growth, _⟩ := Numbered.addExpression_growth entity (.group connective children) {}
    Numbered.Tidy.start
  obtain ⟨request, renamed, completed⟩ :=
    growth.tidy.rename_root ((Numbered.get?_addLevel _).trans (if_pos rfl)) (loose_group.2 rfl).2
  exact ⟨_, request, renamed, completed⟩

/-- **The request of a query tree** compiles back into the tree. -/
theorem ofExpression_compiles (entity : String) (expression : Expression) :
    ∃ request, ofExpression entity expression = .ok request ∧
      request.criteria = numberedCriteria entity 0 expression.conditions ∧
      (request.groups.map Group.id ++ request.merged.names).Nodup ∧
      request.compile = .ok (expression.toFilter 0) := by
  -- the walk starts at the empty request, with both counters at zero
  have ⟨growth, unfolds⟩ := Numbered.addExpression_growth entity expression {} Numbered.Tidy.start
  have criteria := growth.criteria
  cases expression with
  | condition condition =>
    -- one condition has its group alone, which stands by itself
    refine ⟨_, rfl, criteria, List.pairwise_singleton _ _, ?_⟩
    exact compile_eq_ok_iff.2
      ⟨growth.tidy.criteria, growth.tidy.unfolds, [], Rooted.none rfl, rfl⟩
  | group connective children =>
    -- the outermost group becomes the root, below which everything else is listed
    obtain ⟨_, request, made, completed⟩ := ofExpression_completed entity connective children
    refine ⟨request, made, completed.criteria.trans criteria, completed.nodup, ?_⟩
    exact completed.compile_eq unfolds fun id => loose_group.1

/-- **The ids of a query** are the numbered ones and that of its root. -/
theorem ofExpression_declares {entity : String} {expression : Expression} {request : Request}
    (h : ofExpression entity expression = .ok request) {id : String}
    (declared : request.Declares id) : id = finalGroup ∨ ∃ n, id = groupId n := by
  have ⟨growth, _⟩ := Numbered.addExpression_growth entity expression {} Numbered.Tidy.start
  -- the walk uses numbered ids only, and the root is all that is added
  have numbered : ∀ id, (Numbered.addExpression entity expression {}).1.request.Declares id →
      ∃ n, id = groupId n := by
    intro id declared
    obtain ⟨n, _, same⟩ := growth.tidy.given id declared
    exact ⟨n + 1, same⟩
  cases expression with
  | condition condition =>
    obtain rfl := Except.ok.inj h
    exact Or.inr (numbered id declared)
  | group connective children =>
    obtain ⟨_, _, made, completed⟩ := ofExpression_completed entity connective children
    obtain rfl := Except.ok.inj (made.symm.trans h)
    rcases declared with declared | declared
    · rcases completed.contains declared with same | ⟨declared, _⟩
      · exact Or.inl same
      · exact Or.inr (numbered id (Or.inl declared))
    · exact Or.inr (numbered id (Or.inr (completed.hasGroup_iff.1 declared)))

mutual

theorem ownerScoped_addExpression (entity : String) (expression : Expression) (made : Numbered) :
    (Numbered.addExpression entity expression made).1.request.ownerScoped =
      made.request.ownerScoped := by
  cases expression with
  | condition condition => rfl
  | group connective children => exact ownerScoped_addExpressions entity children made

theorem ownerScoped_addExpressions (entity : String) (expressions : List Expression)
    (made : Numbered) :
    (Numbered.addExpressions entity expressions made).1.request.ownerScoped =
      made.request.ownerScoped := by
  cases expressions with
  | nil => rfl
  | cons child rest =>
    exact (ownerScoped_addExpressions entity rest _).trans
      (ownerScoped_addExpression entity child made)

end

/-- No query can keep a scope from adding its owner group. -/
theorem ownerScoped_ofExpression {entity : String} {expression : Expression} {request : Request}
    (h : ofExpression entity expression = .ok request) : request.ownerScoped = true := by
  have flag := ownerScoped_addExpression entity expression {}
  cases expression with
  | condition condition =>
    obtain rfl := Except.ok.inj h
    exact flag
  | group connective children => exact (ownerScoped_rename h).trans flag

/-- **A query means what it says**: whatever tree a query is read as, its request is made without a
fault, has one criterion for each condition, declares no id twice, and compiles back into the tree,
in which each condition is its numbered criterion. -/
theorem ofQuery_compiles {strict : Bool} {query : String} (entity : String)
    {expression : Expression} (h : Query.read strict query = .ok expression) :
    ∃ request, Request.ofQuery strict query entity = .ok request ∧
      request.criteria = numberedCriteria entity 0 expression.conditions ∧
      (request.groups.map Group.id ++ request.merged.names).Nodup ∧
      request.compile = .ok (expression.toFilter 0) ∧
      (expression.toFilter 0).leaves = request.criteria.map Criterion.id := by
  obtain ⟨request, made, criteria, nodup, compiles⟩ := ofExpression_compiles entity expression
  refine ⟨request, ?_, criteria, nodup, compiles, ?_⟩
  · rw [ofQuery, h]
    simp only [made]
  · rw [criteria]
    exact leaves_toFilter entity 0 expression

/-- A query with a level inside of another one. -/
def nestedQuery : String := "a IS NULL & (b IS NULL | c IS NULL)"

/-- The tree of `nestedQuery`. -/
def nestedExpression : Expression :=
  .group .and [.condition ⟨"a", .isNull, .null⟩,
    .group .or [.condition ⟨"b", .isNull, .null⟩, .condition ⟨"c", .isNull, .null⟩]]

/-- The filter of `nestedQuery`. -/
def nestedFilter : Filter String :=
  .and [.and [.leaf "C1"], .or [.and [.leaf "C2"], .and [.leaf "C3"]]]

theorem read_nestedQuery : Query.read true nestedQuery = .ok nestedExpression := by
  have a : Query.readPiece true "a IS NULL ".toList = .ok (.condition ⟨"a", .isNull, .null⟩) := by
    have text : Query.unwrap "a IS NULL ".toList = "a IS NULL".toList := by cbv
    exact Query.readPiece_of_whole text (by rfl) (by simp) (by rfl) (by rfl)
  have b : Query.readPiece true "b IS NULL ".toList = .ok (.condition ⟨"b", .isNull, .null⟩) := by
    have text : Query.unwrap "b IS NULL ".toList = "b IS NULL".toList := by cbv
    exact Query.readPiece_of_whole text (by rfl) (by simp) (by rfl) (by rfl)
  have c : Query.readPiece true " c IS NULL".toList = .ok (.condition ⟨"c", .isNull, .null⟩) := by
    have text : Query.unwrap " c IS NULL".toList = "c IS NULL".toList := by cbv
    exact Query.readPiece_of_whole text (by rfl) (by simp) (by rfl) (by rfl)
  -- the second piece is a level of its own, in its parentheses
  have inner : Query.readPiece true " (b IS NULL | c IS NULL)".toList =
      .ok (.group .or [.condition ⟨"b", .isNull, .null⟩, .condition ⟨"c", .isNull, .null⟩]) := by
    have text : Query.unwrap " (b IS NULL | c IS NULL)".toList =
        "b IS NULL | c IS NULL".toList := by cbv
    have cuts : Query.cut "b IS NULL | c IS NULL".toList =
        ⟨"b IS NULL ".toList, [(.or, " c IS NULL".toList)]⟩ := by rfl
    have there : (Text.trim " (b IS NULL | c IS NULL)".toList).isEmpty = false := by rfl
    have pieces := Outcome.mapM_eq_ok_iff.2 (.cons b (.cons c .nil))
    rw [Query.readPiece, there, Query.readLevel_of_pieces text cuts rfl]
    exact congrArg (Except.map (Expression.group .or)) pieces
  have outer : Query.readLevel true nestedQuery.toList = .ok nestedExpression := by
    have text : Query.unwrap nestedQuery.toList = nestedQuery.toList := by cbv
    have cuts : Query.cut nestedQuery.toList =
        ⟨"a IS NULL ".toList, [(.and, " (b IS NULL | c IS NULL)".toList)]⟩ := by rfl
    have pieces := Outcome.mapM_eq_ok_iff.2 (.cons a (.cons inner .nil))
    rw [Query.readLevel_of_pieces text cuts rfl]
    exact congrArg (Except.map (Expression.group .and)) pieces
  have there : Text.isBlankText nestedQuery = false := by rfl
  have structured : Query.checkStructure nestedQuery.toList = .ok () := by rfl
  rw [Query.read, there, if_neg Bool.false_ne_true, Query.readChecked, structured]
  exact outer

theorem ofQuery_compiles_nestedQuery :
    Query.read true nestedQuery = .ok nestedExpression ∧
      ∃ request, Request.ofQuery true nestedQuery "Task" = .ok request ∧
        request.criteria = numberedCriteria "Task" 0 nestedExpression.conditions ∧
        (request.groups.map Group.id ++ request.merged.names).Nodup ∧
        request.compile = .ok nestedFilter ∧
        nestedFilter.leaves = request.criteria.map Criterion.id :=
  ⟨read_nestedQuery, ofQuery_compiles "Task" read_nestedQuery⟩

end Request

end EntitySearch
