import EntitySearch.Proofs.Groups.Compile

/-!
# What a compiled filter means

The meaning of an id under a valuation of criteria is read off the declarations by plain recursion:
a merged group is its connective over the meanings of its members, a group is its connective over
its criteria. The recursion goes along `Request.Lists`, which leads down only finitely often in a
graph that is grounded (`Request.Grounded`), and it shares nothing with the compiler: it keeps no
table and no path.

The same recursion serves two readings, by what it makes of leaves and of connectives
(`Request.interpret`): the truth of an id (`Request.meaning`), and the criteria below an id from
left to right (`Request.criteriaBelow`). Both are functions of the unfolding that respect
connectives, so one lemma, `interpret_eq`, carries each over to the compiled filter. What remains
for `compile_means` is the part that the compiler puts beside the root: the standalone groups, in
the order of their first declarations.
-/

namespace EntitySearch

namespace Request

variable {request : Request}

/-! ### Plain recursion -/

/-- From no id is there an endless way down through members. -/
def Grounded (request : Request) : Prop := WellFounded fun j k => request.Lists k j

/-- **Reading an id by plain recursion**, with a value for every criterion and a value for every
connective over the values of its parts. An id names a merged group rather than a group, and a
group is the first one of its id. An id that names nothing is an empty disjunction. -/
def interpret {α : Type} (request : Request) (grounded : request.Grounded) (leaf : String → α)
    (join : Connective → List α → α) (id : String) : α :=
  match _ : request.merged.get? id with
  | some group =>
    join group.connective (group.members.attach.map fun member =>
      interpret request grounded leaf join member.1)
  | none =>
    match request.group? id with
    | some group => join (group.connective.getD .and) (group.criteria.map leaf)
    | none => join .or []
  termination_by grounded.wrap id
  decreasing_by exact ⟨group, by assumption, member.2⟩

/-- **The meaning of an id** under a valuation of the criteria. -/
def meaning (request : Request) (grounded : request.Grounded) (valuation : String → Bool)
    (id : String) : Bool :=
  request.interpret grounded valuation Connective.combine id

/-- The criteria below an id, from left to right. -/
def criteriaBelow (request : Request) (grounded : request.Grounded) (id : String) : List String :=
  request.interpret grounded (fun criterion => [criterion]) (fun _ parts => parts.flatten) id

section Interpret

variable {α : Type} {leaf : String → α} {join : Connective → List α → α}
  (grounded : request.Grounded) {id : String}

theorem interpret_of_merged {group : MergedGroup} (declared : request.merged.get? id = some group) :
    request.interpret grounded leaf join id =
      join group.connective (group.members.map (request.interpret grounded leaf join)) := by
  rw [interpret]
  split
  · next found =>
    rw [declared] at found
    obtain rfl := Option.some.inj found
    exact congrArg (join group.connective) List.attach_map_val
  · next undeclared =>
    rw [declared] at undeclared
    cases undeclared

theorem interpret_of_group {group : Group} (undeclared : request.merged.get? id = none)
    (found : request.group? id = some group) :
    request.interpret grounded leaf join id =
      join (group.connective.getD .and) (group.criteria.map leaf) := by
  rw [interpret]
  split
  · next declared =>
    rw [undeclared] at declared
    cases declared
  · rw [found]

/-- **Reading an id is reading its unfolding**, by any function of filters that takes the given
values at leaves and at connectives. -/
theorem interpret_eq {read : Filter String → α} (read_leaf : ∀ id, read (.leaf id) = leaf id)
    (read_join : ∀ connective children,
      read (Connective.join connective children) = join connective (children.map read))
    {filter : Filter String} (h : request.Unfolds id filter) :
    request.interpret grounded leaf join id = read filter := by
  induction h with
  | merged tree declared _ ih =>
    rw [interpret_of_merged grounded declared, read_join, List.map_map]
    congr 1
    exact List.map_congr_left ih
  | group undeclared found =>
    rw [interpret_of_group grounded undeclared found, Group.filter, read_join, List.map_map]
    congr 1
    exact List.map_congr_left fun criterion _ => (read_leaf criterion).symm

theorem meaning_eq (valuation : String → Bool) {filter : Filter String}
    (h : request.Unfolds id filter) :
    request.meaning grounded valuation id = filter.holds valuation :=
  interpret_eq grounded (Filter.holds_leaf valuation) (Connective.holds_join valuation) h

theorem criteriaBelow_eq {filter : Filter String} (h : request.Unfolds id filter) :
    request.criteriaBelow grounded id = filter.leaves :=
  interpret_eq grounded Filter.leaves_leaf Connective.leaves_join h

end Interpret

/-- A graph in which every merged group unfolds is grounded: an id that is no merged group lists
nothing. -/
theorem grounded_of_unfolds
    (all : ∀ id, request.merged.contains id → ∃ filter, request.Unfolds id filter) :
    request.Grounded := by
  refine WellFounded.intro fun k => ?_
  by_cases declared : request.merged.contains k
  -- members are merged groups, which unfold, or groups, from which nothing leads down
  · obtain ⟨filter, unfolds⟩ := all k declared
    exact unfolds.acc
  · refine Acc.intro k fun j listed => ?_
    obtain ⟨group, found, _⟩ := listed
    exact absurd (NameMap.contains_of_get? found) declared

/-! ### Standalone groups -/

/-- **Standalone groups**: groups that are no merged groups and that no merged group lists. -/
def IsStandalone (request : Request) (id : String) : Prop :=
  request.hasGroup id ∧ ¬ request.merged.contains id ∧ ∀ k, ¬ request.Lists k id

theorem isMember_iff {id : String} : request.isMember id ↔ ∃ k, request.Lists k id := by
  rw [isMember, List.any_eq_true]
  constructor
  · rintro ⟨group, value, mem⟩
    obtain ⟨k, declared⟩ := NameMap.mem_values_iff.1 value
    exact ⟨k, group, declared, List.contains_iff_mem.1 mem⟩
  · rintro ⟨k, group, declared, mem⟩
    exact ⟨group, NameMap.mem_values_iff.2 ⟨k, declared⟩, List.contains_iff_mem.2 mem⟩

instance (request : Request) : DecidablePred request.IsStandalone := fun id =>
  decidable_of_iff
    (request.hasGroup id ∧ ¬ request.merged.contains id ∧ ¬ request.isMember id) <| by
      rw [isMember_iff, not_exists]
      exact Iff.rfl

/-- The ids of the standalone groups, in the order of their first declarations. -/
def standaloneIds (request : Request) : List String :=
  (request.groups.map Group.id).eraseDups.filter fun id => request.IsStandalone id

/-- Removing repetitions does not interfere with a selection. -/
theorem eraseDups_filter {α : Type} [BEq α] [LawfulBEq α] (keep : α → Bool) (list : List α) :
    (list.filter keep).eraseDups = list.eraseDups.filter keep := by
  -- the recursion is on the length, as the rest is filtered before it goes on
  match list with
  | [] => rfl
  | a :: rest =>
    -- behind an element stands what is different from it
    have shorter : (rest.filter fun b => !b == a).length < rest.length + 1 :=
      Nat.lt_succ_of_le (List.length_filter_le _ _)
    have ih := eraseDups_filter keep (rest.filter fun b => !b == a)
    rw [List.eraseDups_cons]
    by_cases kept : keep a
    · rw [List.filter_cons_of_pos kept, List.filter_cons_of_pos kept, List.eraseDups_cons, ← ih,
        List.filter_filter, List.filter_filter]
      simp only [Bool.and_comm]
    · -- an element that is left out takes no other element with it
      have same : rest.filter keep = (rest.filter fun b => !b == a).filter keep := by
        rw [List.filter_filter]
        refine List.filter_congr fun b _ => ?_
        by_cases eq : b = a
        · subst eq
          simp [kept]
        · simp [eq]
      rw [List.filter_cons_of_neg kept, List.filter_cons_of_neg kept, same, ih]
  termination_by list.length

/-- The first groups of their ids are found by their ids. -/
theorem mem_firstGroups {groups : List Group} {group : Group} (mem : group ∈ firstGroups groups) :
    groups.find? (·.id = group.id) = some group := by
  induction groups with
  | nil => cases mem
  | cons head rest ih =>
    rw [firstGroups] at mem
    rcases List.mem_cons.1 mem with rfl | mem
    · simp
    · obtain ⟨mem, other⟩ := List.mem_filter.1 mem
      -- the head has another id, so the search passes it over
      have other : group.id ≠ head.id := by simpa using other
      rw [List.find?_cons_of_neg (by simpa using Ne.symm other)]
      exact ih mem

theorem map_id_firstGroups (groups : List Group) :
    (firstGroups groups).map Group.id = (groups.map Group.id).eraseDups := by
  induction groups with
  | nil => rfl
  | cons head rest ih =>
    rw [firstGroups, List.map_cons, List.map_cons, List.eraseDups_cons, eraseDups_filter, ← ih,
      List.filter_map]
    congr 2
    refine List.filter_congr fun group _ => ?_
    by_cases same : group.id = head.id <;> simp [same]

/-- The groups that the compiler puts beside the root are the standalone ones. -/
theorem map_id_standalone : request.standalone.map Group.id = request.standaloneIds := by
  -- the selection looks at ids only, so it can be made after the groups are mapped to them
  have selected : request.standalone =
      (firstGroups request.groups).filter
        ((fun id => !request.merged.contains id && !request.isMember id) ∘ Group.id) := rfl
  rw [selected, ← List.filter_map, map_id_firstGroups, standaloneIds]
  refine List.filter_congr fun id mem => ?_
  obtain ⟨group, inside, rfl⟩ := List.mem_map.1 (List.mem_eraseDups.1 mem)
  have declared : request.hasGroup group.id := hasGroup_iff.2 ⟨group, inside, rfl⟩
  rw [Bool.eq_iff_iff, decide_eq_true_iff]
  simp [IsStandalone, declared, ← isMember_iff, ← not_exists]

theorem mem_standaloneIds {id : String} : id ∈ request.standaloneIds ↔ request.IsStandalone id := by
  rw [standaloneIds, List.mem_filter, decide_eq_true_iff, List.mem_eraseDups]
  refine ⟨fun h => h.2, fun h => ⟨?_, h⟩⟩
  obtain ⟨group, found⟩ := Option.isSome_iff_exists.1 h.1
  have same : group.id = id := by simpa using List.find?_some found
  exact List.mem_map.2 ⟨group, List.mem_of_find?_eq_some found, same⟩

theorem standalone_eq_nil (none : ∀ id, ¬ request.IsStandalone id) : request.standalone = [] := by
  refine List.map_eq_nil_iff.1 (map_id_standalone.trans ?_)
  exact List.eq_nil_iff_forall_not_mem.2 fun id mem => none id (mem_standaloneIds.1 mem)

/-- A standalone group unfolds into its filter. -/
theorem unfolds_of_mem_standalone {group : Group} (mem : group ∈ request.standalone) :
    request.Unfolds group.id group.filter := by
  have first := mem_firstGroups (List.mem_of_mem_filter mem)
  have standalone : request.IsStandalone group.id :=
    mem_standaloneIds.1 (map_id_standalone ▸ List.mem_map_of_mem mem)
  exact Unfolds.group (NameMap.get?_eq_none_iff.2 standalone.2.1) first

/-! ### The meaning of a compiled filter -/

section Standalone

variable (grounded : request.Grounded)

theorem all_holds_standalone (valuation : String → Bool) :
    (request.standalone.map Group.filter).all (Filter.holds valuation) = true ↔
      ∀ id, request.IsStandalone id → request.meaning grounded valuation id = true := by
  simp only [← mem_standaloneIds, ← map_id_standalone, List.all_eq_true, List.forall_mem_map]
  refine forall₂_congr fun group mem => ?_
  rw [meaning_eq grounded valuation (unfolds_of_mem_standalone mem)]

theorem leaves_standalone :
    (request.standalone.map Group.filter).flatMap Filter.leaves =
      request.standaloneIds.flatMap (request.criteriaBelow grounded) := by
  rw [← map_id_standalone, List.flatMap_map, List.flatMap_map]
  refine List.flatMap_congr fun group mem => ?_
  rw [criteriaBelow_eq grounded (unfolds_of_mem_standalone mem)]

end Standalone

/-- **A compiled filter means what the groups declare.** It holds when the root does, if there are
merged groups, and every standalone group does. Its leaves are the criteria below the root and then
below the standalone groups, from left to right. Without any groups it holds everywhere. -/
theorem compile_means (request : Request) :
    (∀ filter, request.compile = .ok filter → ∃ grounded : request.Grounded,
      (∀ valuation, filter.holds valuation = true ↔
        (request.merged.entries ≠ [] → request.meaning grounded valuation finalGroup = true) ∧
          ∀ id, request.IsStandalone id → request.meaning grounded valuation id = true) ∧
      filter.leaves =
        (if request.merged.entries.isEmpty then []
          else request.criteriaBelow grounded finalGroup) ++
          request.standaloneIds.flatMap (request.criteriaBelow grounded)) ∧
    (request.isEmpty → request.compile = .ok .all) := by
  constructor
  · intro filter h
    obtain ⟨_, all, roots, rooted, rfl⟩ := compile_eq_ok_iff.1 h
    have grounded := grounded_of_unfolds all
    refine ⟨grounded, fun valuation => ?_, ?_⟩
    -- the parts of the conjunction are the root, if there is one, and the standalone groups
    · rw [holds_conjoin, List.all_append, Bool.and_eq_true, all_holds_standalone grounded valuation]
      refine and_congr_left fun _ => ?_
      cases rooted with
      | none empty => simp [empty]
      | root declared unfolds =>
        rw [meaning_eq grounded valuation unfolds]
        simp [entries_ne_nil declared]
    · rw [leaves_conjoin, List.flatMap_append, leaves_standalone grounded]
      congr 1
      cases rooted with
      | none empty => simp [empty]
      | root declared unfolds =>
        rw [criteriaBelow_eq grounded unfolds]
        simp [entries_ne_nil declared]
  · intro empty
    have ⟨groups, merged⟩ : request.groups = [] ∧ request.merged.entries = [] := by
      simpa [isEmpty] using empty
    -- without groups there is no standalone one, and nothing to unfold
    have standalone : request.standalone = [] := by
      rw [standalone, groups]
      rfl
    refine compile_eq_ok_iff.2 ⟨?_, fun id declared => absurd merged (entries_ne_nil declared), [],
      Rooted.none merged, by rw [standalone]; rfl⟩
    rw [groups]
    exact fun group mem => nomatch mem

/-- A request whose root lists a merged group twice. The id of that merged group is the id of a
group, too, and the group that it lists is declared a second time with another criterion. -/
def shared : Request where
  groups :=
    [⟨"G", some .and, ["C1"]⟩, ⟨"G", some .or, ["C2"]⟩, ⟨"M", none, ["C2"]⟩, ⟨"S", none, ["C3"]⟩]
  criteria :=
    [⟨"C1", "", "a", .isNull, .null⟩, ⟨"C2", "", "b", .isNull, .null⟩,
      ⟨"C3", "", "c", .isNull, .null⟩]
  merged := (NameMap.empty.insert "M" ⟨.or, ["G", "G"]⟩).insert finalGroup ⟨.and, ["M", "M"]⟩

/-- The filter of the merged group inside `shared`. -/
def sharedPart : Filter String := .or [.and [.leaf "C1"], .and [.leaf "C1"]]

/-- The filter of `shared`: the merged group twice, and the standalone group beside it. -/
def sharedFilter : Filter String := .and [.and [sharedPart, sharedPart], .and [.leaf "C3"]]

theorem compile_shared : shared.compile = .ok sharedFilter := by
  have merged : shared.compileMerged =
      .ok [(finalGroup, .and [sharedPart, sharedPart]), ("M", sharedPart)] := by cbv
  rw [compile, merged]
  rfl

theorem compile_means_shared :
    shared.compile = .ok sharedFilter ∧ ∃ grounded : shared.Grounded,
      (∀ valuation, sharedFilter.holds valuation = true ↔
        (shared.merged.entries ≠ [] → shared.meaning grounded valuation finalGroup = true) ∧
          ∀ id, shared.IsStandalone id → shared.meaning grounded valuation id = true) ∧
      sharedFilter.leaves =
        (if shared.merged.entries.isEmpty then [] else shared.criteriaBelow grounded finalGroup) ++
          shared.standaloneIds.flatMap (shared.criteriaBelow grounded) :=
  ⟨compile_shared, (compile_means shared).1 sharedFilter compile_shared⟩

end Request

end EntitySearch
