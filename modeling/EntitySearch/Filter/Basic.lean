/-!
# Filters

A filter is a tree of leaves under conjunctions and disjunctions. An empty conjunction holds and an
empty disjunction does not. The leaves stand for criteria, for comparisons of attributes or for
conditions of a database, and a filter over the one becomes a filter over the other by substitution.
-/

namespace EntitySearch

/-- **A filter** with leaves of a type. -/
inductive Filter (α : Type) where
  | all
  | leaf (value : α)
  | and (children : List (Filter α))
  | or (children : List (Filter α))
  deriving BEq, Repr

namespace Filter

variable {α β : Type}

/-- **Induction on filters**: a conjunction or a disjunction has what all its children have. -/
@[elab_as_elim]
theorem induct {motive : Filter α → Prop} (all : motive all) (leaf : ∀ value, motive (leaf value))
    (and : ∀ children, (∀ child ∈ children, motive child) → motive (and children))
    (or : ∀ children, (∀ child ∈ children, motive child) → motive (or children)) :
    ∀ filter, motive filter
  | .all => all
  | .leaf value => leaf value
  | .and children => and children fun child _ => induct all leaf and or child
  | .or children => or children fun child _ => induct all leaf and or child

mutual

/-- **Whether a filter holds** under a valuation of its leaves. -/
def holds (valuation : α → Bool) : Filter α → Bool
  | all => true
  | leaf value => valuation value
  | and children => everyHolds valuation children
  | or children => someHolds valuation children

/-- Whether every filter of a list holds. -/
def everyHolds (valuation : α → Bool) : List (Filter α) → Bool
  | [] => true
  | child :: rest => holds valuation child && everyHolds valuation rest

/-- Whether some filter of a list holds. -/
def someHolds (valuation : α → Bool) : List (Filter α) → Bool
  | [] => false
  | child :: rest => holds valuation child || someHolds valuation rest

end

theorem everyHolds_eq_all (valuation : α → Bool) (children : List (Filter α)) :
    everyHolds valuation children = children.all (holds valuation) := by
  induction children with
  | nil => rfl
  | cons child rest ih => rw [everyHolds, ih, List.all_cons]

theorem someHolds_eq_any (valuation : α → Bool) (children : List (Filter α)) :
    someHolds valuation children = children.any (holds valuation) := by
  induction children with
  | nil => rfl
  | cons child rest ih => rw [someHolds, ih, List.any_cons]

/-- A conjunction holds when all its children do. -/
@[simp] theorem holds_and (valuation : α → Bool) (children : List (Filter α)) :
    holds valuation (and children) = children.all (holds valuation) :=
  everyHolds_eq_all valuation children

/-- A disjunction holds when some child does. -/
@[simp] theorem holds_or (valuation : α → Bool) (children : List (Filter α)) :
    holds valuation (or children) = children.any (holds valuation) :=
  someHolds_eq_any valuation children

@[simp] theorem holds_leaf (valuation : α → Bool) (value : α) :
    holds valuation (leaf value) = valuation value := rfl

mutual

/-- The leaves of a filter from left to right. -/
def leaves : Filter α → List α
  | all => []
  | leaf value => [value]
  | and children => leavesOf children
  | or children => leavesOf children

/-- The leaves of a list of filters from left to right. -/
def leavesOf : List (Filter α) → List α
  | [] => []
  | child :: rest => leaves child ++ leavesOf rest

end

theorem leavesOf_eq_flatMap (children : List (Filter α)) :
    leavesOf children = children.flatMap leaves := by
  induction children with
  | nil => rfl
  | cons child rest ih => rw [leavesOf, ih, List.flatMap_cons]

@[simp] theorem leaves_and (children : List (Filter α)) :
    leaves (and children) = children.flatMap leaves :=
  leavesOf_eq_flatMap children

@[simp] theorem leaves_or (children : List (Filter α)) :
    leaves (or children) = children.flatMap leaves :=
  leavesOf_eq_flatMap children

@[simp] theorem leaves_leaf (value : α) : leaves (leaf value) = [value] := rfl

section Congruence

variable {v : α → Bool} {w : β → Bool} {children : List (Filter α)} {others : List (Filter β)}

theorem holds_and_congr (same : children.map (holds v) = others.map (holds w)) :
    (and children).holds v = (and others).holds w := by
  have all := congrArg (List.all · id) same
  rwa [holds_and, holds_and, ← Function.id_comp (holds v), ← Function.id_comp (holds w),
    ← List.all_map, ← List.all_map]

theorem holds_or_congr (same : children.map (holds v) = others.map (holds w)) :
    (or children).holds v = (or others).holds w := by
  have any := congrArg (List.any · id) same
  rwa [holds_or, holds_or, ← Function.id_comp (holds v), ← Function.id_comp (holds w),
    ← List.any_map, ← List.any_map]

end Congruence

/-- The leaves decide whether a filter holds. -/
theorem holds_congr {v w : α → Bool} {filter : Filter α}
    (agree : ∀ value ∈ filter.leaves, v value = w value) : filter.holds v = filter.holds w := by
  induction filter using Filter.induct with
  | all => rfl
  | leaf value => exact agree value (List.mem_singleton_self value)
  | and children ih =>
    refine holds_and_congr (List.map_congr_left fun child mem => ih child mem fun value below => ?_)
    exact agree value (leaves_and children ▸ List.mem_flatMap.2 ⟨child, mem, below⟩)
  | or children ih =>
    refine holds_or_congr (List.map_congr_left fun child mem => ih child mem fun value below => ?_)
    exact agree value (leaves_or children ▸ List.mem_flatMap.2 ⟨child, mem, below⟩)

mutual

/-- **Substitution**: the filter with a filter in the place of every leaf. -/
def substitute (f : α → Filter β) : Filter α → Filter β
  | all => all
  | leaf value => f value
  | and children => and (substituteAll f children)
  | or children => or (substituteAll f children)

/-- Substitution in every filter of a list. -/
def substituteAll (f : α → Filter β) : List (Filter α) → List (Filter β)
  | [] => []
  | child :: rest => substitute f child :: substituteAll f rest

end

theorem substituteAll_eq_map (f : α → Filter β) (children : List (Filter α)) :
    substituteAll f children = children.map (substitute f) := by
  induction children with
  | nil => rfl
  | cons child rest ih => rw [substituteAll, ih, List.map_cons]

/-- A filter with filters in the place of its leaves holds when it does with their truth at its
leaves. -/
theorem holds_substitute (v : β → Bool) (f : α → Filter β) (filter : Filter α) :
    (filter.substitute f).holds v = filter.holds fun value => (f value).holds v := by
  induction filter using Filter.induct with
  | all => rfl
  | leaf value => rfl
  | and children ih =>
    rw [substitute, substituteAll_eq_map]
    refine holds_and_congr ?_
    rw [List.map_map]
    exact List.map_congr_left ih
  | or children ih =>
    rw [substitute, substituteAll_eq_map]
    refine holds_or_congr ?_
    rw [List.map_map]
    exact List.map_congr_left ih

/-- Only what takes the places of the leaves matters. -/
theorem substitute_congr {f g : α → Filter β} {filter : Filter α}
    (same : ∀ value ∈ filter.leaves, f value = g value) :
    filter.substitute f = filter.substitute g := by
  induction filter using Filter.induct with
  | all => rfl
  | leaf value => exact same value (List.mem_singleton_self value)
  | and children ih =>
    rw [substitute, substitute, substituteAll_eq_map, substituteAll_eq_map]
    refine congrArg and (List.map_congr_left fun child mem => ih child mem fun value below => ?_)
    exact same value (leaves_and children ▸ List.mem_flatMap.2 ⟨child, mem, below⟩)
  | or children ih =>
    rw [substitute, substitute, substituteAll_eq_map, substituteAll_eq_map]
    refine congrArg or (List.map_congr_left fun child mem => ih child mem fun value below => ?_)
    exact same value (leaves_or children ▸ List.mem_flatMap.2 ⟨child, mem, below⟩)

/-- The filter with a function applied to every leaf. -/
def map (f : α → β) (filter : Filter α) : Filter β := filter.substitute fun value => leaf (f value)

theorem map_congr {f g : α → β} {filter : Filter α}
    (same : ∀ value ∈ filter.leaves, f value = g value) : filter.map f = filter.map g :=
  substitute_congr fun value below => congrArg leaf (same value below)

@[simp] theorem map_and (f : α → β) (children : List (Filter α)) :
    (and children).map f = and (children.map (map f)) := by
  unfold map
  rw [substitute, substituteAll_eq_map]

@[simp] theorem map_or (f : α → β) (children : List (Filter α)) :
    (or children).map f = or (children.map (map f)) := by
  unfold map
  rw [substitute, substituteAll_eq_map]

/-- A function after a substitution is applied to what takes the places of the leaves. -/
theorem map_substitute {γ : Type} (f : α → Filter β) (g : β → γ) (filter : Filter α) :
    (filter.substitute f).map g = filter.substitute fun value => (f value).map g := by
  induction filter using Filter.induct with
  | all => rfl
  | leaf value => rfl
  | and children ih =>
    rw [substitute, substitute, substituteAll_eq_map, substituteAll_eq_map, map_and, List.map_map]
    exact congrArg and (List.map_congr_left ih)
  | or children ih =>
    rw [substitute, substitute, substituteAll_eq_map, substituteAll_eq_map, map_or, List.map_map]
    exact congrArg or (List.map_congr_left ih)

@[simp] theorem leaves_map (f : α → β) (filter : Filter α) :
    (filter.map f).leaves = filter.leaves.map f := by
  induction filter using Filter.induct with
  | all => rfl
  | leaf value => rfl
  | and children ih =>
    rw [map_and, leaves_and, leaves_and, List.flatMap_map, List.map_flatMap, List.flatMap_def,
      List.flatMap_def]
    exact congrArg List.flatten (List.map_congr_left ih)
  | or children ih =>
    rw [map_or, leaves_or, leaves_or, List.flatMap_map, List.map_flatMap, List.flatMap_def,
      List.flatMap_def]
    exact congrArg List.flatten (List.map_congr_left ih)

end Filter

end EntitySearch
