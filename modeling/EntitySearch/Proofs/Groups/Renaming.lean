import EntitySearch.Proofs.Groups.Append
import Mathlib

/-!
# Renaming merged groups

A merged group can get a new id that nothing in its request uses. What the request declares under an
id is then declared under the exchanged id, with exchanged members (`Relabels`), where the exchange
swaps the old id and the new one. The relation is symmetric, so one lemma on unfoldings serves both
ways (`Relabels.unfolds`), and a renamed request compiles exactly when the request does.

The filter need not stay the same. A group may have the id of a merged group, and then the merged
group hides it. A renaming moves the merged group and all references to it, and the group comes
forth: no merged group has its id any more and none lists it, so it is a standalone group of the
renamed request (`isStandalone_rename_iff`), which `compile_rename` accounts for. Where no group has
the old id, the filter holds as before.
-/

namespace EntitySearch

namespace Request

/-! ### Exchanging ids -/

/-- **A request with other ids for merged groups**: what `a` declares under an id, `b` declares
under its other id, with the other ids of the members. -/
def Relabels (ρ : Equiv.Perm String) (a b : Request) : Prop :=
  ∀ id, b.merged.get? (ρ id) =
    (a.merged.get? id).map fun group => { group with members := group.members.map ρ }

namespace Relabels

variable {ρ : Equiv.Perm String} {a b : Request}

theorem symm (relabels : Relabels ρ a b) : Relabels ρ.symm b a := by
  intro id
  have there := relabels (ρ.symm id)
  rw [Equiv.apply_symm_apply] at there
  rw [there, Option.map_map]
  cases a.merged.get? (ρ.symm id) with
  | none => rfl
  | some group => simp

theorem contains_iff (relabels : Relabels ρ a b) {id : String} :
    b.merged.contains (ρ id) ↔ a.merged.contains id := by
  rw [NameMap.contains, NameMap.contains, relabels id, Option.isSome_map]

theorem lists_iff (relabels : Relabels ρ a b) {k j : String} :
    b.Lists (ρ k) (ρ j) ↔ a.Lists k j := by
  unfold Lists
  rw [relabels k]
  cases a.merged.get? k with
  | none => simp
  | some group => simp

/-- What no merged group lists is listed by none under its other id. -/
theorem exists_lists_iff (relabels : Relabels ρ a b) {j : String} :
    (∃ k, b.Lists k (ρ j)) ↔ ∃ k, a.Lists k j := by
  constructor
  · rintro ⟨k, listed⟩
    refine ⟨ρ.symm k, relabels.lists_iff.1 ?_⟩
    rwa [Equiv.apply_symm_apply]
  · rintro ⟨k, listed⟩
    exact ⟨ρ k, relabels.lists_iff.2 listed⟩

end Relabels

/-- A request in which an id is no merged group and no member of one. -/
def Avoids (request : Request) (id : String) : Prop :=
  ¬ request.merged.contains id ∧ ∀ k, ¬ request.Lists k id

/-- **Unfoldings** are the same in requests with exchanged ids and with the same groups, except for
an id that is not used for merged groups. -/
theorem Relabels.unfolds {old new : String} {a b : Request}
    (relabels : Relabels (Equiv.swap old new) a b) (groups : b.groups = a.groups)
    (declared : a.merged.contains old) (avoids : a.Avoids new) {id : String}
    {filter : Filter String} (h : a.Unfolds id filter) (other : id ≠ new) :
    b.Unfolds (Equiv.swap old new id) filter := by
  refine h.relabel (Equiv.swap old new) (· ≠ new) (fun id _ => relabels id) ?_ ?_ other
  · -- an id that is no merged group is neither the old one nor the new one
    intro id other undeclared
    have other' : id ≠ old := by
      rintro rfl
      exact NameMap.get?_eq_none_iff.1 undeclared declared
    rw [Equiv.swap_apply_of_ne_of_ne other' other, group?, groups]
    rfl
  · rintro k j - listed rfl
    exact avoids.2 k listed

/-- The standalone groups all hold when each standalone id does, as the first group of the id. -/
theorem all_standalone_iff {request : Request} {valuation : String → Bool} :
    (request.standalone.map Group.filter).all (Filter.holds valuation) = true ↔
      ∀ id group, request.IsStandalone id → request.group? id = some group →
        group.filter.holds valuation = true := by
  rw [List.all_eq_true, List.forall_mem_map]
  constructor
  · intro all id group standalone found
    rw [← mem_standaloneIds, ← map_id_standalone] at standalone
    obtain ⟨first, mem, rfl⟩ := List.mem_map.1 standalone
    -- the first group under an id is the one that is found
    have same : first = group :=
      Option.some.inj ((mem_firstGroups (List.mem_of_mem_filter mem)).symm.trans found)
    exact same ▸ all first mem
  · intro all group mem
    have standalone : request.IsStandalone group.id :=
      mem_standaloneIds.1 (map_id_standalone ▸ List.mem_map_of_mem mem)
    exact all group.id group standalone (mem_firstGroups (List.mem_of_mem_filter mem))

/-! ### Renamed requests -/

/-- **A request in which a merged group has another id.** -/
structure Renames (old new : String) (a b : Request) : Prop where
  groups : b.groups = a.groups
  criteria : b.criteria = a.criteria
  relabels : Relabels (Equiv.swap old new) a b
  declared : a.merged.contains old
  avoids : a.Avoids new

/-- **Renaming succeeds** for a merged group and an id that is not used for merged groups. -/
theorem exists_rename {request : Request} {old new : String}
    (declared : request.merged.contains old) (avoids : request.Avoids new) :
    ∃ moved, request.rename old new = .ok moved ∧ Renames old new request moved := by
  obtain ⟨group, found⟩ := Option.isSome_iff_exists.1 declared
  have other : old ≠ new := by
    rintro rfl
    exact avoids.1 declared
  unfold rename
  rw [if_neg other, if_neg avoids.1, found]
  refine ⟨_, rfl, rfl, rfl, fun id => ?_, declared, avoids⟩
  -- members are exchanged as they are renamed, for the new id is none of them
  have members {k : String} {group : MergedGroup} (there : request.merged.get? k = some group) :
      group.members.map (renamed old new) = group.members.map (Equiv.swap old new) := by
    refine List.map_congr_left fun member mem => ?_
    have new' : member ≠ new := by
      rintro rfl
      exact avoids.2 k ⟨group, there, mem⟩
    unfold renamed
    split
    · next same => rw [same, Equiv.swap_apply_left]
    · next old' => rw [Equiv.swap_apply_of_ne_of_ne old' new']
  rw [NameMap.get?_mapValues, NameMap.get?_insert, NameMap.get?_erase]
  -- the entry of the old id is found under the new one, and nothing is left under the old one
  by_cases isOld : id = old
  · rw [isOld, Equiv.swap_apply_left, if_pos rfl, found, Option.map_some, Option.map_some,
      members found]
  · by_cases isNew : id = new
    · rw [isNew, Equiv.swap_apply_right, if_neg other.symm, if_pos rfl,
        NameMap.get?_eq_none_iff.2 avoids.1]
      rfl
    · rw [Equiv.swap_apply_of_ne_of_ne isOld isNew, if_neg (Ne.symm isNew), if_neg (Ne.symm isOld)]
      cases there : request.merged.get? id with
      | none => rfl
      | some group => rw [Option.map_some, Option.map_some, members there]

namespace Renames

variable {old new : String} {a b : Request} (renames : Renames old new a b)

include renames

theorem ne : old ≠ new := by
  rintro rfl
  exact renames.avoids.1 renames.declared

/-- Renaming back is a renaming. -/
theorem symm : Renames new old b a where
  groups := renames.groups.symm
  criteria := renames.criteria.symm
  relabels := by
    have back := renames.relabels.symm
    rwa [Equiv.symm_swap, Equiv.swap_comm] at back
  declared := by
    have there := renames.relabels.contains_iff.2 renames.declared
    rwa [Equiv.swap_apply_left] at there
  avoids := by
    rw [← Equiv.swap_apply_right old new]
    refine ⟨fun declared => renames.avoids.1 (renames.relabels.contains_iff.1 declared), ?_⟩
    intro k listed
    obtain ⟨k, listed⟩ := renames.relabels.exists_lists_iff.1 ⟨k, listed⟩
    exact renames.avoids.2 k listed

theorem unfolds {id : String} {filter : Filter String} (h : a.Unfolds id filter)
    (other : id ≠ new) : b.Unfolds (Equiv.swap old new id) filter :=
  renames.relabels.unfolds renames.groups renames.declared renames.avoids h other

/-- If all merged groups unfold, then so do all merged groups of the renamed request. -/
theorem all_unfold (all : ∀ id, a.merged.contains id → ∃ filter, a.Unfolds id filter) (id : String)
    (declared : b.merged.contains id) : ∃ filter, b.Unfolds id filter := by
  have back : a.merged.contains (Equiv.swap old new id) := by
    rwa [← renames.relabels.contains_iff, Equiv.swap_apply_self]
  obtain ⟨filter, unfolds⟩ := all _ back
  have other : Equiv.swap old new id ≠ new := by
    intro same
    exact renames.avoids.1 (same ▸ back)
  have forth := renames.unfolds unfolds other
  rw [Equiv.swap_apply_self] at forth
  exact ⟨filter, forth⟩

theorem entries_ne_nil : a.merged.entries ≠ [] := Request.entries_ne_nil renames.declared

/-- The root is the same, unless it is renamed. -/
theorem rooted (root : old ≠ finalGroup) (root' : new ≠ finalGroup) {roots : List (Filter String)}
    (rooted : a.Rooted roots) : b.Rooted roots := by
  have kept : Equiv.swap old new finalGroup = finalGroup :=
    Equiv.swap_apply_of_ne_of_ne root.symm root'.symm
  cases rooted with
  | none empty => exact absurd empty renames.entries_ne_nil
  | root declared unfolds =>
    have declared' := renames.relabels.contains_iff.2 declared
    have unfolds' := renames.unfolds unfolds root'.symm
    rw [kept] at declared' unfolds'
    exact Rooted.root declared' unfolds'

/-- **The standalone groups** of a renamed request are those of the request, and the group that the
merged group has hidden. -/
theorem isStandalone_iff (unused : ¬ a.hasGroup new) {id : String} :
    b.IsStandalone id ↔ a.IsStandalone id ∨ (id = old ∧ a.hasGroup old) := by
  have group (id : String) : b.hasGroup id = a.hasGroup id := by
    rw [hasGroup, group?, renames.groups]
    rfl
  unfold IsStandalone
  rw [group]
  by_cases isOld : id = old
  · -- nothing has the old id any more but groups
    have free := renames.symm.avoids
    rw [isOld]
    constructor
    · exact fun standalone => Or.inr ⟨rfl, standalone.1⟩
    · rintro (⟨_, undeclared, _⟩ | ⟨_, declared⟩)
      · exact absurd renames.declared undeclared
      · exact ⟨declared, free.1, free.2⟩
  · by_cases isNew : id = new
    · rw [isNew]
      -- no group has the new id
      simp [unused, renames.ne.symm]
    · -- every other id keeps its place in the graph
      have kept : Equiv.swap old new id = id := Equiv.swap_apply_of_ne_of_ne isOld isNew
      have contains : b.merged.contains id ↔ a.merged.contains id := by
        rw [← renames.relabels.contains_iff, kept]
      have lists : (∃ k, b.Lists k id) ↔ ∃ k, a.Lists k id := by
        rw [← renames.relabels.exists_lists_iff, kept]
      rw [contains, ← not_exists, ← not_exists, lists]
      simp [isOld]

/-- What the standalone groups say after a renaming: what they have said, and what the hidden group
says. -/
theorem all_holds_standalone (unused : ¬ a.hasGroup new) (valuation : String → Bool) :
    (b.standalone.map Group.filter).all (Filter.holds valuation) =
      ((a.standalone.map Group.filter).all (Filter.holds valuation) &&
        (a.group? old).all fun group => group.filter.holds valuation) := by
  have found (id : String) : b.group? id = a.group? id := by
    rw [group?, renames.groups]
    rfl
  rw [Bool.eq_iff_iff, Bool.and_eq_true, all_standalone_iff, all_standalone_iff, Option.all_eq_true]
  simp only [found, renames.isStandalone_iff unused]
  constructor
  · intro all
    refine ⟨fun id group standalone => all id group (Or.inl standalone), fun group there => ?_⟩
    have declared : a.hasGroup old := by
      rw [hasGroup, there]
      rfl
    exact all old group (Or.inr ⟨rfl, declared⟩) there
  · -- a standalone group now was one before, or is the one that was hidden
    rintro ⟨all, hidden⟩ id group (standalone | ⟨rfl, _⟩) there
    · exact all id group standalone there
    · exact hidden group there

/-- **A renamed request compiles** if the request does, into the same roots beside its own
standalone groups. -/
theorem compile (root : old ≠ finalGroup) (root' : new ≠ finalGroup) {tree : Filter String}
    (compiles : a.compile = .ok tree) :
    ∃ roots, tree = conjoin (roots ++ a.standalone.map Group.filter) ∧
      b.compile = .ok (conjoin (roots ++ b.standalone.map Group.filter)) := by
  obtain ⟨criteria, all, roots, rooted, rfl⟩ := compile_eq_ok_iff.1 compiles
  rw [← renames.groups, ← renames.criteria] at criteria
  exact ⟨roots, rfl, compile_eq_ok_iff.2
    ⟨criteria, renames.all_unfold all, roots, renames.rooted root root' rooted, rfl⟩⟩

end Renames

/-- **Renaming a merged group** that is not the root, to an id that nothing uses, succeeds. The
renamed request fails to compile exactly when the request does. If they compile, the new filter
holds when the old one does and the group that has the old id does, if there is one: a group that
the merged group has hidden becomes a standalone group. -/
theorem compile_rename {request : Request} {old new : String}
    (declared : request.merged.contains old) (root : old ≠ finalGroup) (root' : new ≠ finalGroup)
    (unused : ¬ request.Uses new) :
    ∃ moved, request.rename old new = .ok moved ∧
      ((∃ fault, moved.compile = .error fault) ↔ ∃ fault, request.compile = .error fault) ∧
      ∀ tree, request.compile = .ok tree → ∃ tree', moved.compile = .ok tree' ∧
        ∀ valuation, tree'.holds valuation = (tree.holds valuation &&
          (request.group? old).all fun group => group.filter.holds valuation) := by
  obtain ⟨unlisted, noGroup⟩ : request.Avoids new ∧ ¬ request.hasGroup new := by
    obtain ⟨undeclared, unlisted⟩ := not_or.1 unused
    exact ⟨⟨fun merged => undeclared (Or.inl merged), not_exists.1 unlisted⟩,
      fun group => undeclared (Or.inr group)⟩
  obtain ⟨moved, renamed, renames⟩ := exists_rename declared unlisted
  refine ⟨moved, renamed, ?_, fun tree compiles => ?_⟩
  · -- the renaming can be taken back, so the two compile alike
    rw [Outcome.exists_error_iff, Outcome.exists_error_iff, not_iff_not]
    constructor
    · rintro ⟨tree, compiles⟩
      obtain ⟨roots, _, compiles'⟩ := renames.symm.compile root' root compiles
      exact ⟨_, compiles'⟩
    · rintro ⟨tree, compiles⟩
      obtain ⟨roots, _, compiles'⟩ := renames.compile root root' compiles
      exact ⟨_, compiles'⟩
  · -- both filters have one root, so they differ in their standalone groups only
    obtain ⟨roots, rfl, compiles'⟩ := renames.compile root root' compiles
    refine ⟨_, compiles', fun valuation => ?_⟩
    rw [holds_conjoin, holds_conjoin, List.all_append, List.all_append,
      renames.all_holds_standalone noGroup valuation, Bool.and_assoc]

/-- What a renaming makes of `shared`: the group that the merged group has hidden, and the
standalone group. -/
def sharedRenamed : Filter String :=
  .and [.and [sharedPart, sharedPart], .and [.leaf "C2"], .and [.leaf "C3"]]

theorem not_uses_shared : ¬ shared.Uses "N" := by
  rintro (declared | listed)
  · revert declared
    rw [Declares]
    decide
  · rw [← isMember_iff] at listed
    revert listed
    decide

theorem compile_rename_shared :
    shared.merged.contains "M" ∧ ¬ shared.Uses "N" ∧ shared.compile = .ok sharedFilter ∧
      ∃ moved, shared.rename "M" "N" = .ok moved ∧ ∃ tree, moved.compile = .ok tree ∧
        ∀ valuation, tree.holds valuation =
          (sharedFilter.holds valuation && valuation "C2") := by
  have declared : shared.merged.contains "M" := by decide
  obtain ⟨moved, renamed, _, holds⟩ :=
    compile_rename declared (by decide) (by decide) not_uses_shared
  obtain ⟨tree, compiles, same⟩ := holds sharedFilter compile_shared
  refine ⟨declared, not_uses_shared, compile_shared, moved, renamed, tree, compiles, ?_⟩
  intro valuation
  rw [same valuation]
  simp [group?, shared, Group.filter, Connective.join]

/-- **A renaming can change the filter**: what the merged group has hidden is asked for, too. -/
theorem rename_changes_shared :
    shared.merged.contains "M" ∧ "M" ≠ finalGroup ∧ "N" ≠ finalGroup ∧ ¬ shared.Uses "N" ∧
      ∃ moved tree tree', shared.rename "M" "N" = .ok moved ∧ shared.compile = .ok tree ∧
        moved.compile = .ok tree' ∧
        tree.holds (· ≠ "C2") = true ∧ tree'.holds (· ≠ "C2") = false := by
  obtain ⟨moved, renamed⟩ : ∃ moved, shared.rename "M" "N" = .ok moved := ⟨_, rfl⟩
  refine ⟨by decide, by decide, by decide, not_uses_shared, moved, sharedFilter, sharedRenamed,
    renamed, compile_shared, ?_, by decide, by decide⟩
  obtain rfl := Except.ok.inj renamed
  cbv

end Request

end EntitySearch
