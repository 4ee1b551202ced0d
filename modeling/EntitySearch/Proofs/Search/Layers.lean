import EntitySearch.Proofs.Search.Evaluation
import EntitySearch.Request.Edit

/-!
# Requests as layers

Requests are laid over one another without looking at their graphs: lists are appended, maps are
united. For two requests that have no id in common this is conjunction (`append_conjoins`): whatever
compiles alone compiles together, the filter of both is the conjunction of the two filters under
every valuation of the criteria, and it does not matter which of the two comes first.

The requirement on criteria is about declared ids only. A request that compiles lists no others, so
`Independent.apart` can hand both requirements on to the conjunction of filters.

A group of its own is the smallest layer. Adding criteria one by one to a group that a request does
not use yet (`addAll`) is laying a request over it that has this group alone (`addAll_eq_append`),
so it can only narrow what the request matches.
-/

namespace EntitySearch

namespace Request

variable {a b : Request}

/-! ### Requests without a common id -/

/-- **Independent requests**: no id of a group, of a merged group or of a member of one is used by
both, and no criterion of one has the id of a criterion of the other. -/
structure Independent (a b : Request) : Prop where
  ids : ∀ id, a.Uses id → ¬ b.Uses id
  criteria : ∀ first ∈ a.criteria, ∀ second ∈ b.criteria, first.id ≠ second.id

instance (request : Request) : DecidablePred request.Uses := fun id =>
  decidable_of_iff (request.merged.contains id ∨ request.hasGroup id ∨ request.isMember id) <| by
    rw [isMember_iff, ← or_assoc]
    exact Iff.rfl

/-- In a request that compiles every criterion in use is declared. -/
theorem exists_criterion_of_compile {filter : Filter String} (h : a.compile = .ok filter)
    {id : String} (used : a.UsesCriterion id) : ∃ criterion ∈ a.criteria, criterion.id = id := by
  obtain ⟨declared, _⟩ := compile_eq_ok_iff.1 h
  rcases used with there | ⟨group, mem, listed⟩
  · exact there
  · exact declared group mem id listed

namespace Independent

theorem symm (independent : a.Independent b) : b.Independent a where
  ids id used used' := independent.ids id used' used
  criteria second mem first mem' same := independent.criteria first mem' second mem same.symm

/-- Independent requests that compile have no criterion in common, listed ones included. -/
theorem apart (independent : a.Independent b) {left right : Filter String}
    (ha : a.compile = .ok left) (hb : b.compile = .ok right) : a.Apart b where
  ids := independent.ids
  criteria id used used' := by
    obtain ⟨first, mem, rfl⟩ := exists_criterion_of_compile ha used
    obtain ⟨second, mem', same⟩ := exists_criterion_of_compile hb used'
    exact independent.criteria first mem second mem' same.symm

end Independent

/-! ### Adding a group -/

/-- A criterion for a group that the first request does not have goes to the second one. -/
theorem add_append {group : String} (new : ¬ a.hasGroup group) (connective : Option Connective)
    (criterion : Criterion) :
    (a.append b).add group connective criterion =
      a.append (b.add group connective criterion) := by
  have other : ∀ first ∈ a.groups, first.id ≠ group := fun first mem same =>
    new (hasGroup_iff.2 ⟨first, mem, same⟩)
  simp only [add, append, appendTo_append other, List.append_assoc]

theorem addAll_append {group : String} (new : ¬ a.hasGroup group) (connective : Option Connective)
    (criteria : List Criterion) :
    (a.append b).addAll group connective criteria =
      a.append (b.addAll group connective criteria) := by
  induction criteria generalizing b with
  | nil => rfl
  | cons criterion rest ih =>
    rw [addAll_cons, add_append new, ih, addAll_cons]

theorem append_empty (request : Request) : request.append .empty = request := by
  simp [append, empty, NameMap.insertAll, NameMap.empty]

/-- **Adding a group is laying a request over another one** that has this group alone. -/
theorem addAll_eq_append {group : String} (new : ¬ a.hasGroup group)
    (connective : Option Connective) (criteria : List Criterion) :
    a.addAll group connective criteria = a.append (empty.addAll group connective criteria) := by
  rw [← addAll_append new, append_empty]

@[simp] theorem criteria_addAll (group : String) (connective : Option Connective)
    (criteria : List Criterion) :
    (a.addAll group connective criteria).criteria = a.criteria ++ criteria := by
  induction criteria generalizing a with
  | nil => exact (List.append_nil _).symm
  | cons criterion rest ih =>
    rw [addAll_cons, ih, add, List.append_assoc]
    rfl

@[simp] theorem merged_addAll (group : String) (connective : Option Connective)
    (criteria : List Criterion) : (a.addAll group connective criteria).merged = a.merged := by
  induction criteria generalizing a with
  | nil => rfl
  | cons criterion rest ih => exact ih

/-- Where there is one group, all criteria for it are listed there. -/
theorem groups_addAll_of_single {group : String} {first : Option Connective} {ids : List String}
    (single : a.groups = [⟨group, first, ids⟩]) (connective : Option Connective)
    (criteria : List Criterion) :
    (a.addAll group connective criteria).groups =
      [⟨group, first, ids ++ criteria.map Criterion.id⟩] := by
  induction criteria generalizing a ids with
  | nil => simpa [addAll] using single
  | cons criterion rest ih =>
    have extended : (a.add group connective criterion).groups =
        [⟨group, first, ids ++ [criterion.id]⟩] := by
      simp [add, single, appendTo]
    rw [addAll_cons, ih extended, List.append_assoc]
    rfl

/-- A request to which one group is added has no other group, and the group lists the criteria. -/
theorem mem_groups_addAll_empty {group : String} {connective : Option Connective}
    {criteria : List Criterion} {other : Group}
    (mem : other ∈ (empty.addAll group connective criteria).groups) :
    other = ⟨group, connective, criteria.map Criterion.id⟩ := by
  cases criteria with
  | nil => cases mem
  | cons criterion rest =>
    have single : (empty.add group connective criterion).groups =
        [⟨group, connective, [criterion.id]⟩] := rfl
    rw [addAll_cons, groups_addAll_of_single single] at mem
    exact List.mem_singleton.1 mem

/-- A request with one group compiles. -/
theorem compile_addAll_empty (group : String) (connective : Option Connective)
    (criteria : List Criterion) :
    ∃ filter, (empty.addAll group connective criteria).compile = .ok filter := by
  have plain : (empty.addAll group connective criteria).merged = .empty := merged_addAll _ _ _
  refine ⟨_, compile_eq_ok_iff.2 ⟨fun other mem id listed => ?_, fun id declared => ?_, [],
    Rooted.none (by rw [plain]; rfl), rfl⟩⟩
  · rw [mem_groups_addAll_empty mem] at listed
    obtain ⟨criterion, inside, same⟩ := List.mem_map.1 listed
    exact ⟨criterion, by simpa using Or.inr inside, same⟩
  · rw [plain] at declared
    cases declared

/-- The only id that a request with one group uses is that of the group. -/
theorem eq_of_uses_addAll_empty {group : String} {connective : Option Connective}
    {criteria : List Criterion} {id : String}
    (used : (empty.addAll group connective criteria).Uses id) : id = group := by
  have plain : (empty.addAll group connective criteria).merged = .empty := merged_addAll _ _ _
  rcases used with (declared | declared) | ⟨k, found, declared, _⟩
  · rw [plain] at declared
    cases declared
  · obtain ⟨other, mem, rfl⟩ := hasGroup_iff.1 declared
    rw [mem_groups_addAll_empty mem]
  · rw [plain] at declared
    cases declared

/-- A new group with new criteria is independent of the request that it is added to. -/
theorem independent_addAll_empty {group : String} (free : ¬ a.Uses group)
    (connective : Option Connective) {criteria : List Criterion}
    (new : ∀ first ∈ a.criteria, ∀ second ∈ criteria, first.id ≠ second.id) :
    a.Independent (empty.addAll group connective criteria) where
  ids id used used' := free (eq_of_uses_addAll_empty used' ▸ used)
  criteria first mem second mem' := by
    rw [criteria_addAll] at mem'
    exact new first mem second (by simpa [empty] using mem')

/-- **A new group narrows a request.** -/
theorem compile_addAll {group : String} (free : ¬ a.Uses group) (connective : Option Connective)
    {criteria : List Criterion}
    (new : ∀ first ∈ a.criteria, ∀ second ∈ criteria, first.id ≠ second.id)
    {filter : Filter String} (h : a.compile = .ok filter) :
    ∃ narrowed, (a.addAll group connective criteria).compile = .ok narrowed ∧
      ∀ valuation, narrowed.holds valuation = true → filter.holds valuation = true := by
  obtain ⟨layer, layered⟩ := compile_addAll_empty group connective criteria
  have apart := (independent_addAll_empty free connective new).apart h layered
  obtain ⟨narrowed, compiles, both⟩ := compile_append apart h layered
  have undeclared : ¬ a.hasGroup group := fun declared => free (Or.inl (Or.inr declared))
  rw [← addAll_eq_append undeclared] at compiles
  refine ⟨narrowed, compiles, fun valuation holds => ?_⟩
  rw [both, Bool.and_eq_true] at holds
  exact holds.1

/-! ### Conjunction -/

section Order

variable (apart : a.Apart b) {left right : Filter String} (ha : a.compile = .ok left)
  (hb : b.compile = .ok right) (registry : Registry) (config : Config) (entity : String)

include apart ha hb

/-- Two requests have a filter together in either order, or in none. -/
theorem filter_append_comm_isOk_iff :
    (∃ filter, (a.append b).filter registry config entity = .ok filter) ↔
      ∃ filter, (b.append a).filter registry config entity = .ok filter := by
  rw [filter_append_isOk_iff apart ha hb, filter_append_isOk_iff apart.symm hb ha, and_comm]

/-- The order of two requests does not change what their filter accepts. -/
theorem accepts_filter_append_comm {filter swapped : Filter Comparison}
    (h : (a.append b).filter registry config entity = .ok filter)
    (h' : (b.append a).filter registry config entity = .ok swapped) (document : Json) :
    swapped.accepts document = filter.accepts document := by
  obtain ⟨⟨first, made⟩, ⟨second, made'⟩⟩ :=
    (filter_append_isOk_iff apart ha hb).1 ⟨filter, h⟩
  rw [accepts_filter_append apart ha hb h made made' document,
    accepts_filter_append apart.symm hb ha h' made' made document, Bool.and_comm]

end Order

/-- **Laying independent requests over one another conjoins them.** If both compile, so do they
together, in either order, and the filter holds exactly when both filters do, under every valuation
of the criteria. The order changes neither whether there is a filter over an entity type nor which
documents it accepts. In particular a group of its own with new criteria, under an id that is not in
use, only narrows a request. -/
theorem append_conjoins {a b : Request} (independent : a.Independent b)
    {left right : Filter String} (ha : a.compile = .ok left) (hb : b.compile = .ok right) :
    (∃ filter swapped, (a.append b).compile = .ok filter ∧ (b.append a).compile = .ok swapped ∧
      (∀ valuation, filter.holds valuation = (left.holds valuation && right.holds valuation)) ∧
      ∀ valuation, swapped.holds valuation = filter.holds valuation) ∧
    (∀ registry config entity,
      ((∃ filter, (a.append b).filter registry config entity = .ok filter) ↔
        ∃ filter, (b.append a).filter registry config entity = .ok filter) ∧
      ∀ filter swapped, (a.append b).filter registry config entity = .ok filter →
        (b.append a).filter registry config entity = .ok swapped →
        ∀ document, swapped.accepts document = filter.accepts document) ∧
    ∀ group connective criteria, ¬ a.Uses group →
      (∀ first ∈ a.criteria, ∀ second ∈ criteria, first.id ≠ second.id) →
      ∃ narrowed, (a.addAll group connective criteria).compile = .ok narrowed ∧
        ∀ valuation, narrowed.holds valuation = true → left.holds valuation = true := by
  have apart := independent.apart ha hb
  obtain ⟨filter, compiles, both⟩ := compile_append apart ha hb
  obtain ⟨swapped, compiles', both'⟩ := compile_append apart.symm hb ha
  refine ⟨⟨filter, swapped, compiles, compiles', both, fun valuation => ?_⟩, ?_, ?_⟩
  · rw [both, both', Bool.and_comm]
  · intro registry config entity
    exact ⟨filter_append_comm_isOk_iff apart ha hb registry config entity, fun _ _ h h' =>
      accepts_filter_append_comm apart ha hb registry config entity h h'⟩
  · exact fun group connective criteria free new => compile_addAll free connective new ha

/-- A request with a group of two criteria. -/
def eitherNull : Request :=
  empty.addAll "L" (some .or) [⟨"X", "", "a", .isNull, .null⟩, ⟨"Y", "", "b", .isNull, .null⟩]

theorem append_conjoins_shared :
    shared.Independent eitherNull ∧ shared.compile = .ok sharedFilter ∧
      eitherNull.compile = .ok (.or [.leaf "X", .leaf "Y"]) ∧
      (∃ filter swapped, (shared.append eitherNull).compile = .ok filter ∧
        (eitherNull.append shared).compile = .ok swapped ∧
        (∀ valuation, filter.holds valuation =
          (sharedFilter.holds valuation &&
            (Filter.or [.leaf "X", .leaf "Y"]).holds valuation)) ∧
        ∀ valuation, swapped.holds valuation = filter.holds valuation) ∧
      ∃ narrowed, (shared.addAll "N" none [⟨"Z", "", "c", .isNull, .null⟩]).compile =
          .ok narrowed ∧
        ∀ valuation, narrowed.holds valuation = true → sharedFilter.holds valuation = true := by
  have independent : shared.Independent eitherNull :=
    independent_addAll_empty (by decide) (some .or) (by decide)
  have compiles : eitherNull.compile = .ok (.or [.leaf "X", .leaf "Y"]) := by
    have merged : eitherNull.compileMerged = .ok [] := by cbv
    rw [compile, merged]
    rfl
  obtain ⟨both, _, narrows⟩ := append_conjoins independent compile_shared compiles
  exact ⟨independent, compile_shared, compiles, both, narrows "N" none _ (by decide) (by decide)⟩

end Request

end EntitySearch
