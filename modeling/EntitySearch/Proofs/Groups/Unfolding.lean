import EntitySearch.Filter.Compile
import Mathlib.Data.List.Forall2
import Mathlib.Logic.Relation

/-!
# Unfolding the graph of groups

The groups of a request form a graph, and a filter of an id is the tree that unfolds from the id.
This file says what that tree is without running the compiler: `Request.Unfolds` is the plain
recursion that goes on to the members of a merged group and ends at groups. It has no table of what
has been compiled and no path of what is being compiled, and an id has at most one unfolding
(`Unfolds.unique`).

An id from which a cycle can be reached has no unfolding at all. This is the content of
`Unfolds.acc`: an unfolding is a finite tree, so only finitely many steps lead down from its root,
and an id that comes back to itself would be below itself. Where every merged group unfolds, the
graph therefore has no cycle and no member that is not declared (`acyclic_of_unfolds`,
`declares_of_unfolds`).
-/

namespace EntitySearch

namespace Request

variable {request : Request}

/-! ### The graph -/

/-- The merged group `k` lists the id `j` as a member. Only merged groups list anything, so a cycle
of this relation runs through merged groups alone. -/
def Lists (request : Request) (k j : String) : Prop :=
  ∃ group, request.merged.get? k = some group ∧ j ∈ group.members

/-- An id that is declared, as a merged group or as a group. -/
def Declares (request : Request) (id : String) : Prop :=
  request.merged.contains id ∨ request.hasGroup id

/-- **Well-formed graphs.** -/
structure WellFormed (request : Request) : Prop where
  /-- Every criterion that a group lists is declared; this includes the groups that are hidden by
  an earlier one of the same id. -/
  criteria : ∀ group ∈ request.groups, ∀ id ∈ group.criteria, ∃ criterion ∈ request.criteria,
    criterion.id = id
  /-- Merged groups have a root. -/
  root : request.merged.entries = [] ∨ request.merged.contains finalGroup
  /-- Every member of a merged group is declared. -/
  members : ∀ k j, request.Lists k j → request.Declares j
  /-- No merged group is reached from itself. -/
  acyclic : ∀ k, ¬ Relation.TransGen request.Lists k k

/-! ### Unfoldings -/

/-- **Unfolding an id.** A merged group is its connective over the unfoldings of its members, in
their order; an id that is no merged group is the filter of the first group of the id. -/
inductive Unfolds (request : Request) : String → Filter String → Prop where
  | merged {id : String} {group : MergedGroup} (tree : String → Filter String) :
      request.merged.get? id = some group →
      (∀ member ∈ group.members, Unfolds request member (tree member)) →
      Unfolds request id (group.connective.join (group.members.map tree))
  | group {id : String} {group : Group} :
      request.merged.get? id = none → request.group? id = some group →
      Unfolds request id group.filter

namespace Unfolds

/-- An id has at most one unfolding. -/
theorem unique {id : String} {a b : Filter String} (ha : request.Unfolds id a)
    (hb : request.Unfolds id b) : a = b := by
  induction ha generalizing b with
  | @merged id group tree declared _ ih =>
    cases hb with
    | merged other declared' below =>
      rw [declared] at declared'
      obtain rfl := Option.some.inj declared'
      -- both trees go on with the same members, and there they agree by induction
      have same : group.members.map tree = group.members.map other :=
        List.map_congr_left fun member mem => ih member mem (below member mem)
      rw [same]
    | group none' _ =>
      -- an id is not that of a merged group and of none
      rw [declared] at none'
      cases none'
  | @group id group undeclared found =>
    cases hb with
    | merged _ declared _ =>
      rw [undeclared] at declared
      cases declared
    | group _ found' =>
      rw [found] at found'
      obtain rfl := Option.some.inj found'
      rfl

/-- What unfolds is declared. -/
theorem declares {id : String} {filter : Filter String} (h : request.Unfolds id filter) :
    request.Declares id := by
  cases h with
  | merged _ declared _ => exact Or.inl (NameMap.contains_of_get? declared)
  | group _ found =>
    refine Or.inr ?_
    rw [hasGroup, found]
    rfl

/-- Where an id unfolds, everything it lists does. -/
theorem member {k j : String} {filter : Filter String} (h : request.Unfolds k filter)
    (listed : request.Lists k j) : ∃ below, request.Unfolds j below := by
  obtain ⟨group, declared, mem⟩ := listed
  cases h with
  | merged tree declared' below =>
    rw [declared] at declared'
    obtain rfl := Option.some.inj declared'
    exact ⟨tree j, below j mem⟩
  | group undeclared _ =>
    rw [declared] at undeclared
    cases undeclared

/-- **Unfoldings are finite**: there is no endless way down from an id that unfolds. -/
theorem acc {id : String} {filter : Filter String} (h : request.Unfolds id filter) :
    Acc (fun j k => request.Lists k j) id := by
  induction h with
  | merged tree declared _ ih =>
    refine Acc.intro _ fun j listed => ?_
    obtain ⟨group, declared', mem⟩ := listed
    rw [declared] at declared'
    obtain rfl := Option.some.inj declared'
    exact ih j mem
  | group undeclared _ =>
    -- nothing leads down from a group
    refine Acc.intro _ fun j listed => ?_
    obtain ⟨group, declared, _⟩ := listed
    rw [undeclared] at declared
    cases declared

end Unfolds

/-- Filters that unfold from the ids of a list, one for each, are the values of one function: an id
that stands in the list twice has the same filter both times. -/
theorem exists_tree_of_forall₂ {ids : List String} {filters : List (Filter String)}
    (h : List.Forall₂ request.Unfolds ids filters) :
    ∃ tree, filters = ids.map tree ∧ ∀ id ∈ ids, request.Unfolds id (tree id) := by
  induction h with
  | nil => exact ⟨fun _ => .all, rfl, fun id mem => nomatch mem⟩
  | @cons id filter ids filters first _ ih =>
    obtain ⟨tree, rfl, below⟩ := ih
    -- if the first id comes again, both filters are its unfolding
    refine ⟨Function.update tree id filter, ?_, fun other mem => ?_⟩
    · rw [List.map_cons, Function.update_self]
      congr 1
      refine List.map_congr_left fun other mem => ?_
      by_cases same : other = id
      · subst same
        rw [Function.update_self]
        exact (below other mem).unique first
      · rw [Function.update_of_ne same]
    · by_cases same : other = id
      · subst same
        rw [Function.update_self]
        exact first
      · rw [Function.update_of_ne same]
        exact below other (List.mem_of_ne_of_mem same mem)

namespace Unfolds

/-- **Unfoldings carry over** to a request that declares the same under other ids, as far as an id
reaches: `Reached` holds of the id and of whatever is listed by an id of which it holds. -/
theorem relabel {other : Request} (ρ : String → String) (Reached : String → Prop)
    (merged : ∀ id, Reached id → other.merged.get? (ρ id) =
      (request.merged.get? id).map fun group => { group with members := group.members.map ρ })
    (groups : ∀ id, Reached id → request.merged.get? id = none →
      other.group? (ρ id) = request.group? id)
    (closed : ∀ k j, Reached k → request.Lists k j → Reached j)
    {id : String} {filter : Filter String} (h : request.Unfolds id filter) (reached : Reached id) :
    other.Unfolds (ρ id) filter := by
  induction h with
  | @merged id group tree declared _ ih =>
    have declared' : other.merged.get? (ρ id) =
        some { group with members := group.members.map ρ } := by
      rw [merged id reached, declared, Option.map_some]
    -- the members unfold under their other ids, by induction
    have below : List.Forall₂ other.Unfolds (group.members.map ρ) (group.members.map tree) := by
      rw [List.forall₂_map_left_iff, List.forall₂_map_right_iff]
      refine List.forall₂_same.2 fun member mem => ih member mem ?_
      exact closed id member reached ⟨group, declared, mem⟩
    -- members may get the same id, but then they have the same unfolding
    obtain ⟨tree', same, unfolds⟩ := exists_tree_of_forall₂ below
    rw [same]
    exact Unfolds.merged tree' declared' unfolds
  | @group id group undeclared found =>
    refine Unfolds.group ?_ ((groups id reached undeclared).trans found)
    rw [merged id reached, undeclared, Option.map_none]

/-- Unfoldings carry over to a request with the same declarations, as far as an id reaches. -/
theorem transfer {other : Request} (Reached : String → Prop)
    (agree : ∀ id, Reached id → other.merged.get? id = request.merged.get? id ∧
      other.group? id = request.group? id)
    (closed : ∀ k j, Reached k → request.Lists k j → Reached j)
    {id : String} {filter : Filter String} (h : request.Unfolds id filter) (reached : Reached id) :
    other.Unfolds id filter := by
  refine h.relabel (fun id => id) Reached (fun id reached => ?_)
    (fun id reached _ => (agree id reached).2) closed reached
  simp only [List.map_id_fun', id_eq, Option.map_id', (agree id reached).1]

/-- Unfoldings carry over to a request that keeps all declarations. -/
theorem mono {other : Request} {id : String} {filter : Filter String}
    (h : request.Unfolds id filter)
    (agree : ∀ id, request.Declares id → other.merged.get? id = request.merged.get? id ∧
      other.group? id = request.group? id) : other.Unfolds id filter := by
  -- the ids that unfold are closed under going down, and all of them are declared
  refine transfer (fun id => ∃ filter, request.Unfolds id filter) ?_ ?_ h ⟨filter, h⟩
  · rintro id ⟨filter, unfolds⟩
    exact agree id unfolds.declares
  · rintro k j ⟨filter, unfolds⟩ listed
    exact unfolds.member listed

end Unfolds

/-- Where every merged group unfolds, every member is declared. -/
theorem declares_of_unfolds
    (all : ∀ id, request.merged.contains id → ∃ filter, request.Unfolds id filter)
    {k j : String} (listed : request.Lists k j) : request.Declares j := by
  have ⟨group, declared, _⟩ := listed
  obtain ⟨filter, unfolds⟩ := all k (NameMap.contains_of_get? declared)
  obtain ⟨below, unfolds'⟩ := unfolds.member listed
  exact unfolds'.declares

/-- An element from which there is no endless way down is not below itself. -/
theorem not_rel_of_acc {α : Type} {r : α → α → Prop} {a : α} (h : Acc r a) : ¬ r a a := by
  induction h with
  | intro a _ ih => exact fun below => ih a below below

/-- Where every merged group unfolds, there is no cycle. -/
theorem acyclic_of_unfolds
    (all : ∀ id, request.merged.contains id → ∃ filter, request.Unfolds id filter)
    (k : String) : ¬ Relation.TransGen request.Lists k k := by
  intro cycle
  -- the first step of the cycle starts at a merged group
  obtain ⟨_, ⟨group, declared, _⟩, _⟩ := Relation.TransGen.head'_iff.1 cycle
  obtain ⟨filter, unfolds⟩ := all k (NameMap.contains_of_get? declared)
  -- an endless way down would go round and round the cycle
  exact not_rel_of_acc unfolds.acc.transGen (Relation.transGen_swap.1 cycle)

end Request

end EntitySearch
