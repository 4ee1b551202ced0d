import EntitySearch.Database.Table
import EntitySearch.Document.Test
import EntitySearch.Proofs.Outcome
import Mathlib

/-!
# Filters over conditions

A database looks at the conditions of a filter in an order of its own: constants first, then
conjunct by conjunct, those on relations last, and in each of them only as far as it has to. If no
condition fails, none of this shows. Then the filter is decided as its connectives say
(`selects_eq`), so a database selects what the memory accepts as soon as both agree on every
comparison (`selects_conditions`).

The proof follows the evaluation. Constants decide nothing or the truth (`isRight_constant?`), a
list that is looked at up to a decision comes out as the conjunction or the disjunction of all of it
(`holds_eq`), and the conjuncts together mean the same as the filter (`conjuncts_eq`), in whatever
order.
-/

namespace EntitySearch.Database

section Evaluation

variable {document : Json} {valuation : Condition → Bool} {filter : Filter Condition}
  {filters : List (Filter Condition)}

/-! ### Constants -/

/-- **A decision by constants** is none, or it is the truth. -/
def IsRight (decision : Option Bool) (truth : Bool) : Prop :=
  decision = none ∨ decision = some truth

/-- Constants decide a conjunction rightly if they do its parts. -/
theorem isRight_constantAnd?
    (right : ∀ child ∈ filters, IsRight (constant? child) (child.holds valuation)) :
    IsRight (constantAnd? filters) (filters.all (Filter.holds valuation)) := by
  induction filters with
  | nil => exact .inr rfl
  | cons child rest ih =>
    obtain ⟨first, others⟩ := List.forall_mem_cons.1 right
    rw [constantAnd?, List.all_cons]
    -- a false part decides alone, a true one only together with all others
    rcases first with known | known <;> rcases ih others with known' | known' <;>
      rw [known, known'] <;> cases child.holds valuation <;>
      cases rest.all (Filter.holds valuation) <;> simp [IsRight]

/-- Constants decide a disjunction rightly if they do its parts. -/
theorem isRight_constantOr?
    (right : ∀ child ∈ filters, IsRight (constant? child) (child.holds valuation)) :
    IsRight (constantOr? filters) (filters.any (Filter.holds valuation)) := by
  induction filters with
  | nil => exact .inr rfl
  | cons child rest ih =>
    obtain ⟨first, others⟩ := List.forall_mem_cons.1 right
    rw [constantOr?, List.any_cons]
    rcases first with known | known <;> rcases ih others with known' | known' <;>
      rw [known, known'] <;> cases child.holds valuation <;>
      cases rest.any (Filter.holds valuation) <;> simp [IsRight]

/-- **Where no condition fails**: at each of them, this is its truth. -/
def Decides (document : Json) (valuation : Condition → Bool) (filter : Filter Condition) : Prop :=
  ∀ condition ∈ filter.leaves, condition.holds document = .ok (valuation condition)

theorem decides_and_iff :
    Decides document valuation (.and filters) ↔
      ∀ child ∈ filters, Decides document valuation child := by
  simp only [Decides, Filter.leaves_and, List.mem_flatMap, forall_exists_index, and_imp]
  exact ⟨fun all child mem condition => all condition child mem,
    fun all condition child mem => all child mem condition⟩

theorem decides_or_iff :
    Decides document valuation (.or filters) ↔
      ∀ child ∈ filters, Decides document valuation child := by
  simp only [Decides, Filter.leaves_or, List.mem_flatMap, forall_exists_index, and_imp]
  exact ⟨fun all child mem condition => all condition child mem,
    fun all condition child mem => all child mem condition⟩

/-- **Constants decide rightly.** -/
theorem isRight_constant? (decides : Decides document valuation filter) :
    IsRight (constant? filter) (filter.holds valuation) := by
  induction filter using Filter.induct with
  | all => exact .inr rfl
  | leaf condition =>
    -- a condition that is always or never true is known without the document
    have known := decides condition (List.mem_singleton_self condition)
    cases condition with
    | always => exact .inr (congrArg some (Except.ok.inj known))
    | never => exact .inr (congrArg some (Except.ok.inj known))
    | direct path test | related relation path test => exact .inl rfl
  | and children ih =>
    rw [constant?, Filter.holds_and]
    exact isRight_constantAnd? fun child mem => ih child mem (decides_and_iff.1 decides child mem)
  | or children ih =>
    rw [constant?, Filter.holds_or]
    exact isRight_constantOr? fun child mem => ih child mem (decides_or_iff.1 decides child mem)

/-! ### Lists of filters -/

/-- A conjunction is looked at as long as its filters are true. -/
theorem holdsAll_eq
    (decided : ∀ child ∈ filters, holds document child = .ok (child.holds valuation)) :
    holdsAll document filters = .ok (filters.all (Filter.holds valuation)) := by
  induction filters with
  | nil => rfl
  | cons child rest ih =>
    obtain ⟨first, others⟩ := List.forall_mem_cons.1 decided
    rw [holdsAll, first, List.all_cons]
    cases child.holds valuation with
    | true => exact ih others
    | false => rfl

/-- A disjunction is looked at as long as its filters are false. -/
theorem holdsAny_eq
    (decided : ∀ child ∈ filters, holds document child = .ok (child.holds valuation)) :
    holdsAny document filters = .ok (filters.any (Filter.holds valuation)) := by
  induction filters with
  | nil => rfl
  | cons child rest ih =>
    obtain ⟨first, others⟩ := List.forall_mem_cons.1 decided
    rw [holdsAny, first, List.any_cons]
    cases child.holds valuation with
    | true => rfl
    | false => exact ih others

/-- **A filter is decided as its connectives say**, if no condition in it fails. -/
theorem holds_eq (decides : Decides document valuation filter) :
    holds document filter = .ok (filter.holds valuation) := by
  induction filter using Filter.induct with
  | all => rfl
  | leaf condition => exact decides condition (List.mem_singleton_self condition)
  | and children ih =>
    have children_decide := decides_and_iff.1 decides
    rw [holds, Filter.holds_and]
    rcases isRight_constantAnd? fun child mem => isRight_constant? (children_decide child mem) with
      unknown | known
    · -- nothing is known beforehand, so the conditions are asked in their order
      rw [unknown]
      exact holdsAll_eq fun child mem => ih child mem (children_decide child mem)
    · -- the constants have decided, and rightly
      rw [known]
  | or children ih =>
    have children_decide := decides_or_iff.1 decides
    rw [holds, Filter.holds_or]
    rcases isRight_constantOr? fun child mem => isRight_constant? (children_decide child mem) with
      unknown | known
    · rw [unknown]
      exact holdsAny_eq fun child mem => ih child mem (children_decide child mem)
    · rw [known]

/-! ### Conjuncts -/

theorem conjunctsOf_eq_flatMap (filters : List (Filter Condition)) :
    conjunctsOf filters = filters.flatMap conjuncts := by
  induction filters with
  | nil => rfl
  | cons child rest ih => rw [conjunctsOf, ih, List.flatMap_cons]

/-- **The conjuncts of a filter** fail nowhere if the filter does not, and together they mean the
same. -/
theorem conjuncts_eq (decides : Decides document valuation filter) :
    (∀ part ∈ conjuncts filter, Decides document valuation part) ∧
      (conjuncts filter).all (Filter.holds valuation) = filter.holds valuation := by
  -- a filter that is no conjunction is a conjunct of its own
  have alone {part : Filter Condition} (decides : Decides document valuation part) :
      (∀ other ∈ [part], Decides document valuation other) ∧
        [part].all (Filter.holds valuation) = part.holds valuation :=
    ⟨List.forall_mem_singleton.2 decides, Bool.and_true _⟩
  induction filter using Filter.induct with
  | all => exact ⟨nofun, rfl⟩
  | leaf condition => exact alone decides
  | and children ih =>
    -- the conjuncts of a conjunction are those of its parts, one after another
    have each (child : Filter Condition) (mem : child ∈ children) :=
      ih child mem (decides_and_iff.1 decides child mem)
    rw [conjuncts, conjunctsOf_eq_flatMap, Filter.holds_and, List.all_flatMap]
    refine ⟨fun part mem => ?_, ?_⟩
    · obtain ⟨child, inside, below⟩ := List.mem_flatMap.1 mem
      exact (each child inside).1 part below
    · rw [Bool.eq_iff_iff, List.all_eq_true, List.all_eq_true]
      refine forall₂_congr fun child mem => ?_
      rw [(each child mem).2]
  | or children ih =>
    cases children with
    -- a disjunction is taken apart only if it has one part
    | nil => exact alone decides
    | cons child rest =>
      cases rest with
      | cons next rest => exact alone decides
      | nil =>
        have only := decides_or_iff.1 decides child List.mem_cons_self
        obtain ⟨parts, same⟩ := ih child List.mem_cons_self only
        refine ⟨parts, same.trans ?_⟩
        rw [Filter.holds_or, List.any_cons, List.any_nil, Bool.or_false]

/-- **A database selects** by a filter as its connectives say, if no condition in it fails. -/
theorem selects_eq (decides : Decides document valuation filter) :
    selects filter document = .ok (filter.holds valuation) := by
  obtain ⟨parts, same⟩ := conjuncts_eq decides
  rw [selects]
  rcases isRight_constant? decides with unknown | known
  · -- the order of the conjuncts makes no difference to all of them
    have reordered : (inTurn filter).Perm (conjuncts filter) := by
      rw [inTurn, List.partition_eq_filter_filter]
      exact List.perm_append_comm.trans (List.filter_append_perm _ _)
    rw [unknown, ← same, ← reordered.all_eq]
    refine holdsAll_eq fun part mem => holds_eq ?_
    exact parts part (reordered.mem_iff.1 mem)
  · rw [known]

end Evaluation

/-- **A database selects what the memory accepts**, if it decides every comparison of a filter as
the memory does. -/
theorem selects_conditions {filter : Filter Comparison} {document : Json}
    (agree : ∀ comparison ∈ filter.leaves,
      (Condition.ofComparison comparison).holds document =
        .ok ((DocumentTest.ofComparison comparison).passes document)) :
    selects (conditions filter) document = .ok (filter.accepts document) := by
  -- the truth of a condition is read off the document, so that it depends on nothing else
  let valuation (condition : Condition) : Bool :=
    match condition.holds document with
    | .ok decided => decided
    | .error _ => false
  have truth (comparison : Comparison) (mem : comparison ∈ filter.leaves) :
      valuation (Condition.ofComparison comparison) =
        (DocumentTest.ofComparison comparison).passes document := by
    change (match (Condition.ofComparison comparison).holds document with
      | .ok decided => decided
      | .error _ => false) = _
    rw [agree comparison mem]
  -- the leaves of the clause are made from those of the filter, so each is decided as its
  -- comparison is
  have decides : Decides document valuation (conditions filter) := by
    intro condition mem
    rw [conditions, Filter.leaves_map] at mem
    obtain ⟨comparison, inside, rfl⟩ := List.mem_map.1 mem
    rw [truth comparison inside]
    exact agree comparison inside
  rw [selects_eq decides, conditions, Filter.map, Filter.holds_substitute]
  exact congrArg Except.ok (Filter.holds_congr truth)

end EntitySearch.Database
