import EntitySearch.Proofs.Groups.Unfolding
import EntitySearch.Request.Numbered

/-!
# Numbering a query

A query is turned into a request by a walk that gives out numbers. This file follows the request
that is being made through the walk. Three things have to hold at every moment for the request to
mean the query in the end:

* no id is given out twice (`Tidy`). The ids in use have numbers up to the counter, so the id that
  is given out next is new, and what has been declared stays as it is (`Growth.keeps`);
* what is added for a part of the query unfolds into the filter of that part, with the criteria
  numbered from where the walk was when it entered the part (`Expression.toFilter`);
* an id is listed by no merged group until the level around its part is complete (`Loose`). While
  the parts of a level are added, exactly their ids become loose; the merged group of the level
  picks up all of them and is the one new loose id (`Growth.addLevel`). In the end only the root is
  loose, and no group stands alone beside the filter.

`Growth` collects what is true of the step from one request to a later one, and it can be chained
(`Growth.trans`). The walk is the induction on the query in `addExpression_growth`.
-/

namespace EntitySearch

/-! ### The filter of a query -/

mutual

/-- **The filter that a query stands for**, with its conditions numbered from `start` on. -/
def Expression.toFilter (start : Nat) : Expression → Filter String
  | condition _ => .and [.leaf (Request.criterionId (start + 1))]
  | group connective children => connective.join (Expression.toFilters start children)

/-- The filters that queries stand for, with their conditions numbered through. -/
def Expression.toFilters (start : Nat) : List Expression → List (Filter String)
  | [] => []
  | child :: rest =>
    child.toFilter start :: Expression.toFilters (start + child.conditions.length) rest

end

namespace Request

/-- The criteria of conditions over an entity type, numbered from `start` on. -/
def numberedCriteria (entity : String) (start : Nat) (conditions : List Query.Condition) :
    List Criterion :=
  (conditions.zipIdx (start + 1)).map fun (condition, n) =>
    ⟨criterionId n, entity, condition.path, condition.operation, condition.value⟩

theorem numberedCriteria_append (entity : String) (start : Nat) (a b : List Query.Condition) :
    numberedCriteria entity start (a ++ b) =
      numberedCriteria entity start a ++ numberedCriteria entity (start + a.length) b := by
  rw [numberedCriteria, List.zipIdx_append, List.map_append]
  congr 3
  omega

namespace Numbered

variable {entity : String} {made : Numbered}

/-! ### Ids in use -/

/-- The ids that have been given out. -/
def Given (made : Numbered) (id : String) : Prop := ∃ n < made.groups, id = groupId (n + 1)

/-- The id that is given out next. -/
def next (made : Numbered) : String := groupId (made.groups + 1)

theorem not_given_next (made : Numbered) : ¬ made.Given made.next := by
  rintro ⟨n, lt, same⟩
  have := groupId_injective same
  omega

/-- **What holds of a request in the making.** -/
structure Tidy (made : Numbered) : Prop where
  /-- Every id in use has been given out. -/
  given : ∀ id, made.request.Declares id → made.Given id
  /-- No two groups have the same id. -/
  once : (made.request.groups.map Group.id).Nodup
  /-- No id is both a group and a merged group. -/
  apart : ∀ id, made.request.hasGroup id → ¬ made.request.merged.contains id
  /-- Groups list declared criteria. -/
  criteria : ∀ group ∈ made.request.groups, ∀ id ∈ group.criteria,
    ∃ criterion ∈ made.request.criteria, criterion.id = id
  /-- Merged groups unfold. -/
  unfolds : ∀ id, made.request.merged.contains id → ∃ filter, made.request.Unfolds id filter

/-- In the beginning nothing is in use. -/
theorem Tidy.start : Tidy {} where
  given := by
    rintro id (declared | declared)
    · exact nomatch declared
    · exact nomatch declared
  once := List.nodup_nil
  apart := fun id declared => nomatch declared
  criteria := fun group mem => nomatch mem
  unfolds := fun id declared => nomatch declared

/-- The id that is given out next is not in use. -/
theorem Tidy.not_declares_next (tidy : made.Tidy) : ¬ made.request.Declares made.next :=
  fun declared => made.not_given_next (tidy.given _ declared)

/-- Nothing lists an id that is not in use. -/
theorem Tidy.not_lists {id : String} (tidy : made.Tidy) (free : ¬ made.request.Declares id)
    (k : String) :
    ¬ made.request.Lists k id :=
  fun listed => free (declares_of_unfolds tidy.unfolds listed)

/-- An id in use that no merged group lists. -/
def Loose (made : Numbered) (id : String) : Prop :=
  made.request.Declares id ∧ ∀ k, ¬ made.request.Lists k id

/-! ### Growth -/

/-- **From one request in the making to a later one**, by which conditions have been added and new
ids have become loose. -/
structure Growth (entity : String) (conditions : List Query.Condition) (new : List String)
    (made later : Numbered) : Prop where
  tidy : later.Tidy
  keeps : ∀ id filter, made.request.Unfolds id filter → later.request.Unfolds id filter
  criteria : later.request.criteria =
    made.request.criteria ++ numberedCriteria entity made.conditions conditions
  conditions : later.conditions = made.conditions + conditions.length
  groups : made.groups ≤ later.groups
  fresh : ∀ id ∈ new, ¬ made.Given id
  loose : ∀ id, later.Loose id ↔ made.Loose id ∨ id ∈ new

theorem Given.mono {later : Numbered} {id : String} (h : made.Given id)
    (le : made.groups ≤ later.groups) :
    later.Given id := by
  obtain ⟨n, lt, same⟩ := h
  exact ⟨n, Nat.lt_of_lt_of_le lt le, same⟩

theorem Growth.refl (tidy : made.Tidy) : Growth entity [] [] made made where
  tidy := tidy
  keeps := fun _ _ h => h
  criteria := by rw [numberedCriteria, List.zipIdx_nil, List.map_nil, List.append_nil]
  conditions := rfl
  groups := Nat.le_refl _
  fresh := fun id mem => nomatch mem
  loose := fun id => by simp

/-- **Growth can be chained.** -/
theorem Growth.trans {a b : List Query.Condition} {new new' : List String} {middle later : Numbered}
    (first : Growth entity a new made middle) (second : Growth entity b new' middle later) :
    Growth entity (a ++ b) (new ++ new') made later where
  tidy := second.tidy
  keeps := fun id filter h => second.keeps id filter (first.keeps id filter h)
  criteria := by
    rw [second.criteria, first.criteria, first.conditions, numberedCriteria_append,
      List.append_assoc]
  conditions := by
    rw [second.conditions, first.conditions, List.length_append, Nat.add_assoc]
  groups := Nat.le_trans first.groups second.groups
  -- what is given later was not given before, for numbers only grow
  fresh := by
    intro id mem given
    rcases List.mem_append.1 mem with mem | mem
    · exact first.fresh id mem given
    · exact second.fresh id mem (given.mono first.groups)
  loose := fun id => by
    rw [second.loose, first.loose, List.mem_append, or_assoc]

/-! ### Adding a condition -/

/-- The group of a condition. -/
def conditionGroup (made : Numbered) : Group :=
  ⟨made.next, some .and, [criterionId (made.conditions + 1)]⟩

section AddCondition

variable {condition : Query.Condition}

theorem groups_addCondition (tidy : made.Tidy) :
    (made.addCondition entity condition).request.groups =
      made.request.groups ++ [made.conditionGroup] := by
  -- the id of the group is new, so the criterion starts a group at the end
  refine appendTo_of_new fun group mem same => ?_
  exact tidy.not_declares_next (Or.inr (hasGroup_iff.2 ⟨group, mem, same⟩))

theorem hasGroup_addCondition (tidy : made.Tidy) {id : String} :
    (made.addCondition entity condition).request.hasGroup id ↔
      made.request.hasGroup id ∨ id = made.next := by
  rw [hasGroup_iff, hasGroup_iff, groups_addCondition tidy]
  simp [or_and_right, exists_or, conditionGroup, eq_comm]

theorem declares_addCondition (tidy : made.Tidy) {id : String} :
    (made.addCondition entity condition).request.Declares id ↔
      made.request.Declares id ∨ id = made.next := by
  rw [Declares, Declares, hasGroup_addCondition tidy, or_assoc]
  exact Iff.rfl

/-- The ids in use mean what they meant before. -/
theorem keeps_addCondition (tidy : made.Tidy) {id : String} {filter : Filter String}
    (h : made.request.Unfolds id filter) :
    (made.addCondition entity condition).request.Unfolds id filter := by
  refine h.mono fun id declared => ⟨rfl, ?_⟩
  -- the new group stands behind all others and has an id that is not in use
  have used : made.next ≠ id := fun same => tidy.not_declares_next (same ▸ declared)
  rw [group?, group?, groups_addCondition tidy, List.find?_append]
  simp [conditionGroup, used]

/-- The new group unfolds into the filter of its condition. -/
theorem unfolds_addCondition (tidy : made.Tidy) :
    (made.addCondition entity condition).request.Unfolds made.next
      (Expression.toFilter made.conditions (.condition condition)) := by
  have free := tidy.not_declares_next
  rw [Declares, not_or] at free
  -- the number is new, so the group behind all others is the first one under it
  have missing : made.request.group? made.next = none := by
    simpa [hasGroup] using free.2
  have found : (made.addCondition entity condition).request.group? made.next =
      some made.conditionGroup := by
    rw [group?] at missing ⊢
    rw [groups_addCondition tidy, List.find?_append, missing]
    simp [conditionGroup]
  have undeclared : (made.addCondition entity condition).request.merged.get? made.next = none :=
    NameMap.get?_eq_none_iff.2 free.1
  exact Unfolds.group undeclared found

theorem tidy_addCondition (tidy : made.Tidy) : (made.addCondition entity condition).Tidy where
  given := by
    intro id declared
    rcases (declares_addCondition tidy).1 declared with declared | rfl
    · obtain ⟨n, lt, same⟩ := tidy.given id declared
      exact ⟨n, Nat.lt_succ_of_lt lt, same⟩
    · exact ⟨made.groups, Nat.lt_succ_self _, rfl⟩
  once := by
    rw [groups_addCondition tidy, List.map_append, List.nodup_append]
    refine ⟨tidy.once, List.pairwise_singleton _ _, ?_⟩
    -- a group with the new id would have been given an id that is still to come
    intro id mem other mem' same
    obtain rfl : other = made.next := by simpa [conditionGroup] using mem'
    subst same
    obtain ⟨group, inside, eq⟩ := List.mem_map.1 mem
    exact tidy.not_declares_next (Or.inr (hasGroup_iff.2 ⟨group, inside, eq⟩))
  -- a new id is no id of a merged group, for it was not declared
  apart := by
    intro id declared
    rcases (hasGroup_addCondition tidy).1 declared with declared | rfl
    · exact tidy.apart id declared
    · exact fun merged => tidy.not_declares_next (Or.inl merged)
  criteria := by
    intro group mem id listed
    rw [groups_addCondition tidy] at mem
    change ∃ criterion ∈ made.request.criteria ++ [_], criterion.id = id
    rcases List.mem_append.1 mem with mem | mem
    · obtain ⟨criterion, inside, same⟩ := tidy.criteria group mem id listed
      exact ⟨criterion, List.mem_append_left _ inside, same⟩
    · obtain rfl := List.mem_singleton.1 mem
      obtain rfl := List.mem_singleton.1 listed
      exact ⟨_, List.mem_append_right _ List.mem_cons_self, rfl⟩
  unfolds := by
    intro id declared
    obtain ⟨filter, unfolds⟩ := tidy.unfolds id declared
    exact ⟨filter, keeps_addCondition tidy unfolds⟩

/-- **Adding a condition** makes its group loose. -/
theorem Growth.addCondition (tidy : made.Tidy) :
    Growth entity [condition] [made.next] made (made.addCondition entity condition) where
  tidy := tidy_addCondition tidy
  keeps := fun _ _ => keeps_addCondition tidy
  criteria := rfl
  conditions := rfl
  groups := Nat.le_succ _
  fresh := by
    intro id mem
    obtain rfl := List.mem_singleton.1 mem
    exact made.not_given_next
  loose := by
    intro id
    rw [Loose, declares_addCondition tidy, List.mem_singleton]
    -- nothing lists the new id yet
    constructor
    · rintro ⟨declared | rfl, unlisted⟩
      · exact Or.inl ⟨declared, unlisted⟩
      · exact Or.inr rfl
    · rintro (⟨declared, unlisted⟩ | rfl)
      · exact ⟨Or.inl declared, unlisted⟩
      · exact ⟨Or.inr rfl, tidy.not_lists tidy.not_declares_next⟩

end AddCondition

/-! ### Adding a level -/

section AddLevel

variable {connective : Connective} {members : List String}

theorem get?_addLevel (id : String) :
    (made.addLevel connective members).request.merged.get? id =
      if made.next = id then some ⟨connective, members⟩ else made.request.merged.get? id :=
  NameMap.get?_insert made.request.merged id made.next ⟨connective, members⟩

theorem contains_addLevel {id : String} :
    (made.addLevel connective members).request.merged.contains id ↔
      made.request.merged.contains id ∨ id = made.next := by
  rw [NameMap.contains, NameMap.contains, get?_addLevel]
  by_cases same : made.next = id
  · simp [same]
  · simp [same, Ne.symm same]

theorem declares_addLevel {id : String} :
    (made.addLevel connective members).request.Declares id ↔
      made.request.Declares id ∨ id = made.next := by
  rw [Declares, Declares, contains_addLevel, or_right_comm]
  exact Iff.rfl

theorem lists_addLevel (tidy : made.Tidy) {k j : String} :
    (made.addLevel connective members).request.Lists k j ↔
      made.request.Lists k j ∨ (k = made.next ∧ j ∈ members) := by
  rw [Lists, get?_addLevel]
  by_cases same : made.next = k
  -- the new id was no merged group before, so it listed nothing
  · have unused : ¬ made.request.Lists k j := by
      rintro ⟨group, declared, _⟩
      exact tidy.not_declares_next (Or.inl (same ▸ NameMap.contains_of_get? declared))
    simp [same, unused]
  · simp [same, Ne.symm same, Lists]

/-- The ids in use mean what they meant before. -/
theorem keeps_addLevel (tidy : made.Tidy) {id : String} {filter : Filter String}
    (h : made.request.Unfolds id filter) :
    (made.addLevel connective members).request.Unfolds id filter := by
  refine h.mono fun id declared => ⟨?_, rfl⟩
  have used : made.next ≠ id := fun same => tidy.not_declares_next (same ▸ declared)
  rw [get?_addLevel, if_neg used]

/-- The new merged group joins the filters of its members. -/
theorem unfolds_addLevel (tidy : made.Tidy) {filters : List (Filter String)}
    (below : List.Forall₂ made.request.Unfolds members filters) :
    (made.addLevel connective members).request.Unfolds made.next (connective.join filters) := by
  obtain ⟨tree, rfl, unfolds⟩ := exists_tree_of_forall₂ below
  have declared : (made.addLevel connective members).request.merged.get? made.next =
      some ⟨connective, members⟩ := by
    rw [get?_addLevel, if_pos rfl]
  exact Unfolds.merged tree declared fun member mem => keeps_addLevel tidy (unfolds member mem)

theorem tidy_addLevel (tidy : made.Tidy) {filters : List (Filter String)}
    (below : List.Forall₂ made.request.Unfolds members filters) :
    (made.addLevel connective members).Tidy where
  given := by
    intro id declared
    rcases declares_addLevel.1 declared with declared | rfl
    · obtain ⟨n, lt, same⟩ := tidy.given id declared
      exact ⟨n, Nat.lt_succ_of_lt lt, same⟩
    · exact ⟨made.groups, Nat.lt_succ_self _, rfl⟩
  once := tidy.once
  apart := by
    intro id declared merged
    rcases contains_addLevel.1 merged with merged | rfl
    · exact tidy.apart id declared merged
    · exact tidy.not_declares_next (Or.inr declared)
  criteria := tidy.criteria
  -- the merged group unfolds into what its members do
  unfolds := by
    intro id declared
    rcases contains_addLevel.1 declared with declared | rfl
    · obtain ⟨filter, unfolds⟩ := tidy.unfolds id declared
      exact ⟨filter, keeps_addLevel tidy unfolds⟩
    · exact ⟨_, unfolds_addLevel tidy below⟩

/-- **Completing a level**: if the parts of the level have become loose, they no longer are, and the
merged group of the level is. -/
theorem Growth.addLevel {conditions : List Query.Condition} {middle : Numbered}
    {filters : List (Filter String)} (growth : Growth entity conditions members made middle)
    (below : List.Forall₂ middle.request.Unfolds members filters) (tidy : made.Tidy) :
    Growth entity conditions [middle.next] made (middle.addLevel connective members) where
  tidy := tidy_addLevel growth.tidy below
  keeps := fun id filter h => keeps_addLevel growth.tidy (growth.keeps id filter h)
  criteria := growth.criteria
  conditions := growth.conditions
  groups := Nat.le_succ_of_le growth.groups
  fresh := by
    intro id mem given
    obtain rfl := List.mem_singleton.1 mem
    exact middle.not_given_next (given.mono growth.groups)
  loose := by
    intro id
    rw [Loose, declares_addLevel, List.mem_singleton]
    simp only [lists_addLevel growth.tidy, not_or, forall_and]
    constructor
    · rintro ⟨declared | rfl, unlisted, outside⟩
      -- what became loose inside of the level is listed by its merged group now
      · rcases (growth.loose id).1 ⟨declared, unlisted⟩ with loose | mem
        · exact Or.inl loose
        · exact absurd ⟨rfl, mem⟩ (outside middle.next)
      · exact Or.inr rfl
    · rintro (loose | rfl)
      -- what was loose before the level is no part of it
      · have later := (growth.loose id).2 (Or.inl loose)
        refine ⟨Or.inl later.1, later.2, fun k inside => ?_⟩
        exact growth.fresh id inside.2 (tidy.given id loose.1)
      · refine ⟨Or.inr rfl, growth.tidy.not_lists growth.tidy.not_declares_next, fun k inside => ?_⟩
        -- a member of the level is in use, and the new id is not
        have loose := (growth.loose middle.next).2 (Or.inr inside.2)
        exact growth.tidy.not_declares_next loose.1

end AddLevel

/-! ### The walk -/

mutual

/-- **The walk over a query**: one id becomes loose, and it unfolds into the filter of the query. -/
theorem addExpression_growth (entity : String) (expression : Expression) (made : Numbered)
    (tidy : made.Tidy) :
    Growth entity expression.conditions [(addExpression entity expression made).2] made
        (addExpression entity expression made).1 ∧
      (addExpression entity expression made).1.request.Unfolds
        (addExpression entity expression made).2
        (expression.toFilter made.conditions) := by
  cases expression with
  | condition condition => exact ⟨Growth.addCondition tidy, unfolds_addCondition tidy⟩
  | group connective children =>
    obtain ⟨growth, below⟩ := addExpressions_growth entity children made tidy
    exact ⟨growth.addLevel below tidy, unfolds_addLevel growth.tidy below⟩

/-- The walk over queries from left to right. -/
theorem addExpressions_growth (entity : String) (expressions : List Expression) (made : Numbered)
    (tidy : made.Tidy) :
    Growth entity (Expression.conditionsOf expressions)
      (addExpressions entity expressions made).2 made
        (addExpressions entity expressions made).1 ∧
      List.Forall₂ (addExpressions entity expressions made).1.request.Unfolds
        (addExpressions entity expressions made).2
        (Expression.toFilters made.conditions expressions) := by
  cases expressions with
  -- nothing grows
  | nil => exact ⟨Growth.refl tidy, List.Forall₂.nil⟩
  | cons child rest =>
    obtain ⟨first, unfolds⟩ := addExpression_growth entity child made tidy
    obtain ⟨second, below⟩ :=
      addExpressions_growth entity rest (addExpression entity child made).1 first.tidy
    -- the rest is numbered from behind the conditions of the first part
    rw [first.conditions] at below
    exact ⟨first.trans second, List.Forall₂.cons (second.keeps _ _ unfolds) below⟩

end

end Numbered

end Request

end EntitySearch
