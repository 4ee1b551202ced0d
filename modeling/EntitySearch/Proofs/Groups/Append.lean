import EntitySearch.Proofs.Groups.Meaning

/-!
# Requests beside one another

Two requests that have no id in common can be laid over one another (`Request.append`) without
getting in each other's way. Each of them then lies in the whole as it was (`Request.Within`): its
ids are declared as before and unfold as before, and its standalone groups stay standalone. So the
filter of the whole is the conjunction of the two filters (`compile_append`).

The way back needs one thing more. A request that has merged groups without a root does not
compile, but it does compile beside a request that brings the root. `compile_of_append` therefore
asks that the first request has no merged groups at all, as it is with the layer of a scope.
-/

namespace EntitySearch

namespace Request

variable {a b : Request}

/-! ### Ids in use -/

/-- An id that a request uses for a group, for a merged group or for a member of one. -/
def Uses (request : Request) (id : String) : Prop :=
  request.Declares id ∨ ∃ k, request.Lists k id

/-- An id that a request uses for a criterion, declared or listed. -/
def UsesCriterion (request : Request) (id : String) : Prop :=
  (∃ criterion ∈ request.criteria, criterion.id = id) ∨
    ∃ group ∈ request.groups, id ∈ group.criteria

/-- **Requests without a common id.** -/
structure Apart (a b : Request) : Prop where
  ids : ∀ id, a.Uses id → ¬ b.Uses id
  criteria : ∀ id, a.UsesCriterion id → ¬ b.UsesCriterion id

/-- **A request within another one**: the ids that it uses are declared in the other one as they
are in itself. -/
def Within (part whole : Request) : Prop :=
  ∀ id, part.Uses id → whole.merged.get? id = part.merged.get? id ∧ whole.group? id = part.group? id

theorem uses_of_get? {id : String} {group : MergedGroup}
    (declared : a.merged.get? id = some group) :
    a.Uses id :=
  Or.inl (Or.inl (NameMap.contains_of_get? declared))

theorem uses_of_lists {k j : String} (listed : a.Lists k j) : a.Uses j := Or.inr ⟨k, listed⟩

theorem uses_of_mem {group : Group} (mem : group ∈ a.groups) : a.Uses group.id :=
  Or.inl (Or.inr (hasGroup_iff.2 ⟨group, mem, rfl⟩))

namespace Within

variable {part whole : Request} (within : part.Within whole)

include within

theorem lists_iff {k j : String} (used : part.Uses k) : whole.Lists k j ↔ part.Lists k j := by
  rw [Lists, Lists, (within k used).1]

/-- What a request within another one uses unfolds in the same way in both. -/
theorem unfolds_iff {id : String} {filter : Filter String} (used : part.Uses id) :
    whole.Unfolds id filter ↔ part.Unfolds id filter := by
  constructor
  · intro h
    refine h.transfer part.Uses (fun id used => ?_) (fun k j used listed => ?_) used
    · exact ⟨(within id used).1.symm, (within id used).2.symm⟩
    · exact uses_of_lists ((within.lists_iff used).1 listed)
  · intro h
    exact h.transfer part.Uses within (fun k j _ listed => uses_of_lists listed) used

end Within

/-! ### Laying requests over one another -/

namespace Apart

variable (apart : a.Apart b)

include apart

theorem symm : b.Apart a where
  ids id used used' := apart.ids id used' used
  criteria id used used' := apart.criteria id used' used

theorem get?_right {id : String} (used : a.Uses id) : b.merged.get? id = none :=
  NameMap.get?_eq_none_iff.2 fun declared => apart.ids id used (Or.inl (Or.inl declared))

theorem group?_right {id : String} (used : a.Uses id) : b.group? id = none := by
  rw [← Option.not_isSome_iff_eq_none]
  exact fun declared => apart.ids id used (Or.inl (Or.inr declared))

end Apart

theorem get?_append (id : String) :
    (a.append b).merged.get? id = (b.merged.get? id).or (a.merged.get? id) :=
  NameMap.get?_insertAll a.merged b.merged id

theorem group?_append (id : String) : (a.append b).group? id = (a.group? id).or (b.group? id) :=
  List.find?_append

theorem Apart.left (apart : a.Apart b) : a.Within (a.append b) := by
  intro id used
  rw [get?_append, group?_append, apart.get?_right used, apart.group?_right used]
  exact ⟨rfl, Option.or_none⟩

theorem Apart.right (apart : a.Apart b) : b.Within (a.append b) := by
  intro id used
  rw [get?_append, group?_append, apart.symm.get?_right used, apart.symm.group?_right used]
  exact ⟨Option.or_none, rfl⟩

theorem contains_append {id : String} :
    (a.append b).merged.contains id ↔ a.merged.contains id ∨ b.merged.contains id := by
  rw [NameMap.contains, get?_append]
  simp [NameMap.contains, or_comm]

theorem lists_append (apart : a.Apart b) {k j : String} :
    (a.append b).Lists k j ↔ a.Lists k j ∨ b.Lists k j := by
  constructor
  · rintro ⟨group, declared, mem⟩
    rw [get?_append] at declared
    rcases Option.or_eq_some_iff.1 declared with declared | ⟨_, declared⟩
    · exact Or.inr ⟨group, declared, mem⟩
    · exact Or.inl ⟨group, declared, mem⟩
  -- each request lies in the whole as it was, so what it lists is listed there
  · rintro (listed | listed)
    · exact (apart.left.lists_iff (uses_of_get? listed.choose_spec.1)).2 listed
    · exact (apart.right.lists_iff (uses_of_get? listed.choose_spec.1)).2 listed

/-! ### Standalone groups -/

theorem mem_of_mem_firstGroups {groups : List Group} {group : Group}
    (mem : group ∈ firstGroups groups) : group ∈ groups :=
  List.mem_of_find?_eq_some (mem_firstGroups mem)

/-- No group of one list hides a group of another one if they have no id in common. -/
theorem firstGroups_append {front back : List Group}
    (other : ∀ group ∈ front, ∀ late ∈ back, late.id ≠ group.id) :
    firstGroups (front ++ back) = firstGroups front ++ firstGroups back := by
  induction front with
  | nil => rfl
  | cons head rest ih =>
    rw [List.cons_append, firstGroups, firstGroups,
      ih fun group mem => other group (List.mem_cons_of_mem _ mem), List.filter_append,
        List.cons_append]
    -- the head leaves out no group of the list behind
    congr 2
    refine List.filter_eq_self.2 fun late mem => ?_
    exact decide_eq_true (other head List.mem_cons_self late (mem_of_mem_firstGroups mem))

/-- What is standalone in a request is standalone in the whole, and nothing else of the request. -/
theorem standalone_within {whole : Request} {part : Request} (within : part.Within whole)
    (lists : ∀ k, ∀ group ∈ part.groups, whole.Lists k group.id → part.Lists k group.id) :
    (firstGroups part.groups).filter
      (fun group => !whole.merged.contains group.id && !whole.isMember group.id) =
        part.standalone := by
  refine List.filter_congr fun group mem => ?_
  -- both requests tell the same about the id of a group that one of them has
  have inside := mem_of_mem_firstGroups mem
  have used := uses_of_mem inside
  -- a group that the whole lists is listed by the part, for nothing else may use its id
  have members : whole.isMember group.id = part.isMember group.id := by
    rw [Bool.eq_iff_iff, isMember_iff, isMember_iff]
    constructor
    · rintro ⟨k, listed⟩
      exact ⟨k, lists k group inside listed⟩
    · rintro ⟨k, listed⟩
      exact ⟨k, (within.lists_iff (uses_of_get? listed.choose_spec.1)).2 listed⟩
  rw [members, NameMap.contains, NameMap.contains, (within group.id used).1]

theorem standalone_append (apart : a.Apart b) :
    (a.append b).standalone = a.standalone ++ b.standalone := by
  have other : ∀ group ∈ a.groups, ∀ late ∈ b.groups, late.id ≠ group.id := by
    intro group mem late mem' same
    exact apart.ids group.id (uses_of_mem mem) (same ▸ uses_of_mem mem')
  rw [standalone]
  change (firstGroups (a.groups ++ b.groups)).filter _ = _
  rw [firstGroups_append other, List.filter_append]
  congr 1
  · -- a group of one half is listed in that half only
    refine standalone_within apart.left fun k group mem listed => ?_
    refine ((lists_append apart).1 listed).resolve_right fun listed => ?_
    exact apart.ids group.id (uses_of_mem mem) (uses_of_lists listed)
  · refine standalone_within apart.right fun k group mem listed => ?_
    refine ((lists_append apart).1 listed).resolve_left fun listed => ?_
    exact apart.ids group.id (uses_of_lists listed) (uses_of_mem mem)

/-! ### Compiling -/

theorem criteria_append (apart : a.Apart b) :
    (∀ group ∈ (a.append b).groups, ∀ id ∈ group.criteria, ∃ criterion ∈ (a.append b).criteria,
        criterion.id = id) ↔
      (∀ group ∈ a.groups, ∀ id ∈ group.criteria, ∃ criterion ∈ a.criteria, criterion.id = id) ∧
        ∀ group ∈ b.groups, ∀ id ∈ group.criteria, ∃ criterion ∈ b.criteria, criterion.id = id := by
  constructor
  · intro h
    -- a criterion that the other request declares would be used by both
    constructor
    · intro group mem id listed
      obtain ⟨criterion, declared, same⟩ := h group (List.mem_append_left _ mem) id listed
      rcases List.mem_append.1 declared with declared | declared
      · exact ⟨criterion, declared, same⟩
      · exact absurd (Or.inl ⟨criterion, declared, same⟩)
          (apart.criteria id (Or.inr ⟨group, mem, listed⟩))
    · intro group mem id listed
      obtain ⟨criterion, declared, same⟩ := h group (List.mem_append_right _ mem) id listed
      rcases List.mem_append.1 declared with declared | declared
      · exact absurd (Or.inr ⟨group, mem, listed⟩)
          (apart.criteria id (Or.inl ⟨criterion, declared, same⟩))
      · exact ⟨criterion, declared, same⟩
  · -- what one of them declares the whole declares
    rintro ⟨left, right⟩ group mem id listed
    rcases List.mem_append.1 mem with mem | mem
    · obtain ⟨criterion, declared, same⟩ := left group mem id listed
      exact ⟨criterion, List.mem_append_left _ declared, same⟩
    · obtain ⟨criterion, declared, same⟩ := right group mem id listed
      exact ⟨criterion, List.mem_append_right _ declared, same⟩

theorem unfolds_append (apart : a.Apart b) :
    (∀ id, (a.append b).merged.contains id → ∃ below, (a.append b).Unfolds id below) ↔
      (∀ id, a.merged.contains id → ∃ below, a.Unfolds id below) ∧
        ∀ id, b.merged.contains id → ∃ below, b.Unfolds id below := by
  have left : ∀ id, a.merged.contains id →
      ((∃ below, (a.append b).Unfolds id below) ↔ ∃ below, a.Unfolds id below) := fun id declared =>
    exists_congr fun below => apart.left.unfolds_iff (Or.inl (Or.inl declared))
  have right : ∀ id, b.merged.contains id →
      ((∃ below, (a.append b).Unfolds id below) ↔ ∃ below, b.Unfolds id below) := fun id declared =>
    exists_congr fun below => apart.right.unfolds_iff (Or.inl (Or.inl declared))
  -- a merged group of the whole is one of either request, and unfolds there
  simp only [contains_append]
  constructor
  · intro all
    constructor
    · exact fun id declared => (left id declared).1 (all id (Or.inl declared))
    · exact fun id declared => (right id declared).1 (all id (Or.inr declared))
  · rintro ⟨all, all'⟩ id (declared | declared)
    · exact (left id declared).2 (all id declared)
    · exact (right id declared).2 (all' id declared)

theorem entries_append : (a.append b).merged.entries = [] ↔
    a.merged.entries = [] ∧ b.merged.entries = [] := by
  simp only [NameMap.entries_eq_nil_iff, contains_append, not_or, forall_and]

/-- At most one of two requests brings a root. -/
theorem rooted_append (apart : a.Apart b) {left right : List (Filter String)} (ha : a.Rooted left)
    (hb : b.Rooted right) : (a.append b).Rooted (left ++ right) := by
  cases ha with
  | none empty =>
    cases hb with
    | none empty' => exact Rooted.none (entries_append.2 ⟨empty, empty'⟩)
    | root declared unfolds =>
      exact Rooted.root (contains_append.2 (Or.inr declared))
        ((apart.right.unfolds_iff (Or.inl (Or.inl declared))).2 unfolds)
  | root declared unfolds =>
    cases hb with
    | none _ =>
      exact Rooted.root (contains_append.2 (Or.inl declared))
        ((apart.left.unfolds_iff (Or.inl (Or.inl declared))).2 unfolds)
    | root declared' _ =>
      -- the id of the root would be used by both
      exact absurd (Or.inl (Or.inl declared')) (apart.ids finalGroup (Or.inl (Or.inl declared)))

/-- A root of the whole is a root of the second request if the first one has no merged groups. -/
theorem rooted_of_append (apart : a.Apart b) (plain : a.merged.entries = [])
    {roots : List (Filter String)} (h : (a.append b).Rooted roots) : b.Rooted roots := by
  cases h with
  | none empty => exact Rooted.none (entries_append.1 empty).2
  | root declared unfolds =>
    have missing := NameMap.entries_eq_nil_iff.1 plain finalGroup
    have declared := (contains_append.1 declared).resolve_left missing
    exact Rooted.root declared ((apart.right.unfolds_iff (Or.inl (Or.inl declared))).1 unfolds)

/-- **Requests without a common id** compile together into the conjunction of their filters. -/
theorem compile_append (apart : a.Apart b) {left right : Filter String}
    (ha : a.compile = .ok left) (hb : b.compile = .ok right) :
    ∃ filter, (a.append b).compile = .ok filter ∧
      ∀ valuation, filter.holds valuation = (left.holds valuation && right.holds valuation) := by
  obtain ⟨criteria, all, roots, rooted, rfl⟩ := compile_eq_ok_iff.1 ha
  obtain ⟨criteria', all', roots', rooted', rfl⟩ := compile_eq_ok_iff.1 hb
  -- the parts of the whole are those of the first request and then those of the second one
  refine ⟨_, compile_eq_ok_iff.2 ⟨(criteria_append apart).2 ⟨criteria, criteria'⟩,
    (unfolds_append apart).2 ⟨all, all'⟩, _, rooted_append apart rooted rooted', rfl⟩, ?_⟩
  intro valuation
  rw [holds_conjoin, holds_conjoin, holds_conjoin, standalone_append apart, List.map_append]
  simp only [List.all_append]
  ac_rfl

/-- **The parts of a request that compiles** compile, if the first one has no merged groups. -/
theorem compile_of_append (apart : a.Apart b) (plain : a.merged.entries = [])
    {filter : Filter String}
    (h : (a.append b).compile = .ok filter) :
    (∃ left, a.compile = .ok left) ∧ ∃ right, b.compile = .ok right := by
  obtain ⟨criteria, all, roots, rooted, -⟩ := compile_eq_ok_iff.1 h
  obtain ⟨criteria, criteria'⟩ := (criteria_append apart).1 criteria
  obtain ⟨all, all'⟩ := (unfolds_append apart).1 all
  constructor
  · exact ⟨_, compile_eq_ok_iff.2 ⟨criteria, all, [], Rooted.none plain, rfl⟩⟩
  · have rooted := rooted_of_append apart plain rooted
    exact ⟨_, compile_eq_ok_iff.2 ⟨criteria', all', roots, rooted, rfl⟩⟩

end Request

end EntitySearch
