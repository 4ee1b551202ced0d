import EntitySearch.Document.Test
import EntitySearch.Filter.Resolve
import EntitySearch.Proofs.Groups.Append
import EntitySearch.Proofs.Groups.Meaning

/-!
# Evaluating a request

The filter of a request over an entity type is made in two passes: the graph of groups is compiled
into a tree of criterion ids, and a table of predicates is filled for all ids that some group lists.
This file puts the two together again, for predicates of any kind and any way to make them, which
may fail. A request has a filter exactly when its graph compiles and every listed criterion has a
predicate (`filterOf_isOk_iff`). Every leaf of the tree is then in the table
(`exists_of_mem_leaves`), so the replacement for ids without a predicate is never used, and the
filter holds exactly when the tree holds with every criterion as true as its predicate is
(`holds_filterOf`). What it takes to have a predicate is spelled out in `filterOf_evaluates_tree`.

The table is filled from left to right, and an id that stands in it is not resolved again. The
invariant is that each entry is the predicate that its id stands for (`Resolved`); what is in the
table therefore does not depend on the order in which groups list their criteria.

The filter of a plan has comparisons as predicates. It accepts a document exactly when the tree
holds with every criterion as true as the document makes it (`accepts_filter`).
-/

namespace EntitySearch

/-- **Whether a document satisfies a criterion** in a search over an entity type. A criterion
without a comparison is satisfied by no document. -/
def Criterion.satisfiedBy (criterion : Criterion) (registry : Registry) (config : Config)
    (entity : String) (document : Json) : Bool :=
  match criterion.comparison registry config entity with
  | .ok comparison => (DocumentTest.ofComparison comparison).passes document
  | .error _ => false

/-- **What can be compared**: a criterion about the entity type that is searched, with a path that
resolves and a literal that can be converted for it. -/
theorem Criterion.comparison_eq_ok_iff {criterion : Criterion} {registry : Registry}
    {config : Config} {entity : String} {comparison : Comparison} :
    criterion.comparison registry config entity = .ok comparison ↔
      criterion.isAbout entity ∧ ∃ target value,
        registry.resolve entity criterion.path = .ok target ∧
        target.field.coerceFor criterion.operation criterion.value = .ok value ∧
        comparison =
          ⟨target, criterion.operation, Comparison.wrapped config criterion.operation value⟩ := by
  rw [Criterion.comparison]
  split
  · next about =>
    rw [Outcome.bind_eq_ok_iff]
    constructor
    · rintro ⟨target, resolved, h⟩
      obtain ⟨value, converted, h⟩ := Outcome.bind_eq_ok_iff.1 h
      exact ⟨about, target, value, resolved, converted, (Except.ok.inj h).symm⟩
    · rintro ⟨_, target, value, resolved, converted, rfl⟩
      exact ⟨target, resolved, Outcome.bind_eq_ok_iff.2 ⟨value, converted, rfl⟩⟩
  · next other =>
    -- a criterion about another entity type is refused before its path is looked at
    constructor
    · intro h; cases h
    · rintro ⟨about, _⟩; exact absurd about other

/-- **The comparison of a criterion whose path resolves** is made of the converted literal; only a
pattern is changed any further. -/
theorem Criterion.comparison_eq_map {criterion : Criterion} {registry : Registry} {config : Config}
    {entity : String} {target : Attribute} (about : criterion.isAbout entity)
    (resolved : registry.resolve entity criterion.path = .ok target)
    (plain : criterion.operation.isPattern = false) :
    criterion.comparison registry config entity =
      (target.field.coerceFor criterion.operation criterion.value).map fun value =>
        ⟨target, criterion.operation, value⟩ := by
  have whole (value : TypedValue) :
      Comparison.wrapped config criterion.operation value = value := by
    cases value with
    | text s => rw [Comparison.wrapped, plain, Bool.false_and, Bool.false_and]; rfl
    | _ => rfl
  rw [Criterion.comparison, if_pos about, resolved]
  show (target.field.coerceFor criterion.operation criterion.value).bind _ = _
  simp only [whole]
  cases target.field.coerceFor criterion.operation criterion.value <;> rfl

/-- A comparison is its own predicate. -/
theorem Criterion.predicate_ok (criterion : Criterion) (registry : Registry) (config : Config)
    (entity : String) :
    criterion.predicate registry config entity .ok =
      criterion.comparison registry config entity := by
  rw [Criterion.predicate]
  cases criterion.comparison registry config entity <;> rfl

/-- What can be compared is about the entity type that is searched. -/
theorem Criterion.isAbout_of_comparison {criterion : Criterion} {registry : Registry}
    {config : Config} {entity : String} {comparison : Comparison}
    (h : criterion.comparison registry config entity = .ok comparison) :
    criterion.isAbout entity :=
  (Criterion.comparison_eq_ok_iff.1 h).1

namespace Request

/-! ### The table of predicates -/

section Predicates

variable {α : Type} (request : Request) (resolve : Criterion → Except SearchError α)

/-- The predicate that an id stands for: the one of the first criterion of the id. -/
def Resolves (id : String) (predicate : α) : Prop :=
  ∃ criterion, request.criterion? id = some criterion ∧ resolve criterion = .ok predicate

/-- How true the predicate of an id is. An id without a predicate is not true. -/
def truthOf (valuation : α → Bool) (id : String) : Bool :=
  match request.criterion? id with
  | some criterion =>
    match resolve criterion with
    | .ok predicate => valuation predicate
    | .error _ => false
  | none => false

/-- A table in which every id has the predicate that it stands for. -/
def Resolved (known : List (String × α)) : Prop := Named.Every (request.Resolves resolve) known

variable {request resolve}

theorem Resolves.truthOf_eq {id : String} {predicate : α}
    (h : request.Resolves resolve id predicate) (valuation : α → Bool) :
    request.truthOf resolve valuation id = valuation predicate := by
  obtain ⟨criterion, declared, made⟩ := h
  rw [truthOf, declared]
  simp only [made]

/-- **Filling the table** keeps what it has, and it has every listed id in the end. -/
theorem resolveListed_run {known final : List (String × α)}
    {listed : List (String × String)}
    (sound : request.Resolved resolve known)
    (h : request.resolveListed resolve known listed = .ok final) :
    request.Resolved resolve final ∧
      (∀ id, (Named.get? id known).isSome → (Named.get? id final).isSome) ∧
        ∀ entry ∈ listed, (Named.get? entry.2 final).isSome := by
  induction listed generalizing known with
  | nil =>
    obtain rfl := Except.ok.inj h
    exact ⟨sound, fun id there => there, fun entry mem => nomatch mem⟩
  | cons entry rest ih =>
    obtain ⟨group, id⟩ := entry
    rw [resolveListed] at h
    split at h
    -- an id that the table has is passed over, and any other one gets its predicate
    · next predicate found =>
      obtain ⟨sound', kept, there⟩ := ih sound h
      refine ⟨sound', kept, fun entry mem => ?_⟩
      rcases List.mem_cons.1 mem with rfl | mem
      · exact kept id (Option.isSome_iff_exists.2 ⟨predicate, found⟩)
      · exact there entry mem
    · split at h
      · cases h
      · next criterion declared =>
        split at h
        · cases h
        · next predicate made =>
          obtain ⟨sound', kept, there⟩ := ih (sound.cons ⟨criterion, declared, made⟩) h
          -- the entry that has just been made is still there in the end
          have self : (Named.get? id final).isSome := kept id (by simp)
          refine ⟨sound', fun other found => kept other ?_, fun entry mem => ?_⟩
          · exact Named.isSome_get?_cons (id, predicate) found
          · rcases List.mem_cons.1 mem with rfl | mem
            · exact self
            · exact there entry mem

/-- The table can be filled when every listed id stands for a predicate. -/
theorem resolveListed_total {listed : List (String × String)}
    (all : ∀ entry ∈ listed,
      ∃ predicate, request.Resolves resolve entry.2 predicate)
    (known : List (String × α)) :
    ∃ final, request.resolveListed resolve known listed = .ok final := by
  induction listed generalizing known with
  | nil => exact ⟨known, rfl⟩
  | cons entry rest ih =>
    obtain ⟨group, id⟩ := entry
    have ih := ih fun entry mem => all entry (List.mem_cons_of_mem _ mem)
    rw [resolveListed]
    -- an id that the table has already needs nothing
    split
    · exact ih known
    · obtain ⟨predicate, criterion, declared, made⟩ := all (group, id) List.mem_cons_self
      simp only [declared, made]
      exact ih _

theorem mem_listed {request : Request} {id : String} :
    id ∈ request.listed.map Prod.snd ↔ ∃ group ∈ request.groups, id ∈ group.criteria := by
  simp [listed]

/-! ### The filter of a request -/

/-- The leaves of an unfolding are criteria that groups list. -/
theorem Unfolds.listed {id : String} {filter : Filter String} (h : request.Unfolds id filter) :
    ∀ leaf ∈ filter.leaves, ∃ group ∈ request.groups, leaf ∈ group.criteria := by
  induction h with
  | merged tree _ _ ih =>
    intro leaf below
    rw [Connective.leaves_join, List.mem_flatten] at below
    obtain ⟨leaves, part, below⟩ := below
    rw [List.map_map] at part
    obtain ⟨member, mem, rfl⟩ := List.mem_map.1 part
    exact ih member mem leaf below
  | @group id group _ found =>
    -- the leaves of a group are the ids that it lists
    intro leaf below
    refine ⟨group, List.mem_of_find?_eq_some found, ?_⟩
    rw [Group.filter, Connective.leaves_join, List.map_map] at below
    simpa using below

/-- The leaves of a compiled tree are criteria that groups list. -/
theorem listed_of_mem_leaves {tree : Filter String} (h : request.compile = .ok tree) :
    ∀ leaf ∈ tree.leaves, ∃ group ∈ request.groups, leaf ∈ group.criteria := by
  obtain ⟨_, _, roots, rooted, rfl⟩ := compile_eq_ok_iff.1 h
  intro leaf below
  rw [leaves_conjoin, List.flatMap_append, List.mem_append] at below
  -- below the root, or in a group that stands alone
  rcases below with below | below
  · cases rooted with
    | none _ => cases below
    | root _ unfolds => exact unfolds.listed leaf (by simpa using below)
  · obtain ⟨filter, part, below⟩ := List.mem_flatMap.1 below
    obtain ⟨group, mem, rfl⟩ := List.mem_map.1 part
    exact (unfolds_of_mem_standalone mem).listed leaf below

theorem filterOf_eq_ok_iff {filter : Filter α} :
    request.filterOf resolve = .ok filter ↔
      ∃ tree known, request.compile = .ok tree ∧ request.predicates resolve = .ok known ∧
        filter = tree.substitute (Filter.ofId known) := by
  rw [filterOf]
  constructor
  · intro h
    split at h
    · cases h
    · next tree compiles =>
      split at h
      · cases h
      · next known made => exact ⟨tree, known, compiles, made, (Except.ok.inj h).symm⟩
  · rintro ⟨tree, known, compiles, made, rfl⟩
    simp only [compiles, made]

/-- The predicates of a request are known by all ids that its groups list. -/
theorem predicates_run {known : List (String × α)} (h : request.predicates resolve = .ok known) :
    request.Resolved resolve known ∧
      ∀ group ∈ request.groups, ∀ id ∈ group.criteria, (Named.get? id known).isSome := by
  obtain ⟨sound, _, there⟩ := resolveListed_run Named.Every.nil h
  refine ⟨sound, fun group mem id listed => ?_⟩
  obtain ⟨entry, inside, rfl⟩ := List.mem_map.1 (mem_listed.2 ⟨group, mem, listed⟩)
  exact there entry inside

/-- **What has a filter**: a request that compiles and whose listed criteria all have predicates. -/
theorem filterOf_isOk_iff :
    (∃ filter, request.filterOf resolve = .ok filter) ↔
      (∃ tree, request.compile = .ok tree) ∧
        ∀ group ∈ request.groups, ∀ id ∈ group.criteria,
          ∃ predicate, request.Resolves resolve id predicate := by
  constructor
  · rintro ⟨filter, h⟩
    obtain ⟨tree, known, compiles, made, -⟩ := filterOf_eq_ok_iff.1 h
    obtain ⟨sound, there⟩ := predicates_run made
    refine ⟨⟨tree, compiles⟩, fun group mem id listed => ?_⟩
    obtain ⟨predicate, found⟩ := Option.isSome_iff_exists.1 (there group mem id listed)
    exact ⟨predicate, sound id predicate found⟩
  · rintro ⟨⟨tree, compiles⟩, all⟩
    -- what is listed is listed in some group
    have each : ∀ entry ∈ request.listed,
        ∃ predicate, request.Resolves resolve entry.2 predicate := by
      intro entry mem
      obtain ⟨group, inside, listed⟩ := mem_listed.1 (List.mem_map_of_mem mem)
      exact all group inside entry.2 listed
    -- the table starts empty
    obtain ⟨known, made⟩ := resolveListed_total each []
    exact ⟨_, filterOf_eq_ok_iff.2 ⟨tree, known, compiles, made, rfl⟩⟩

/-- **No leaf is without a predicate**: the tree has only criteria that some group lists, and the
table knows all of these. -/
theorem exists_of_mem_leaves {tree : Filter String} {known : List (String × α)}
    (compiles : request.compile = .ok tree) (made : request.predicates resolve = .ok known)
    {id : String} (below : id ∈ tree.leaves) :
    ∃ predicate, Named.get? id known = some predicate ∧
      request.Resolves resolve id predicate := by
  obtain ⟨sound, there⟩ := predicates_run made
  obtain ⟨group, mem, listed⟩ := listed_of_mem_leaves compiles id below
  obtain ⟨predicate, found⟩ := Option.isSome_iff_exists.1 (there group mem id listed)
  exact ⟨predicate, found, sound id predicate found⟩

/-- **A filter holds when its tree does**, with every criterion as true as its predicate is. -/
theorem holds_filterOf {filter : Filter α} {tree : Filter String}
    (h : request.filterOf resolve = .ok filter) (compiles : request.compile = .ok tree)
    (valuation : α → Bool) :
    filter.holds valuation = tree.holds (request.truthOf resolve valuation) := by
  obtain ⟨tree', known, compiles', made, rfl⟩ := filterOf_eq_ok_iff.1 h
  obtain rfl : tree' = tree := Except.ok.inj (compiles'.symm.trans compiles)
  rw [Filter.holds_substitute]
  refine Filter.holds_congr fun id below => ?_
  obtain ⟨predicate, found, resolves⟩ := exists_of_mem_leaves compiles made below
  rw [Filter.ofId, found, resolves.truthOf_eq valuation]
  rfl

end Predicates

/-- **A request is evaluated as its compiled tree**, whatever a store makes of comparisons. It has a
filter exactly when its graph compiles and every criterion that a group lists is found, is about the
entity type, resolves, can be converted, and has a comparison of which a predicate is made. The
filter is then the tree with the predicate of its criterion at every leaf, none of which is missing.
It holds exactly when the tree holds with every criterion as true as its own predicate is, for
instance of a document. -/
theorem filterOf_evaluates_tree {α : Type} (request : Request) (registry : Registry)
    (config : Config) (entity : String) (make : Comparison → Except SearchError α) :
    ((∃ filter, request.filterOf (Criterion.predicate registry config entity make) = .ok filter) ↔
      (∃ tree, request.compile = .ok tree) ∧
        ∀ group ∈ request.groups, ∀ id ∈ group.criteria, ∃ criterion target value predicate,
          request.criterion? id = some criterion ∧ criterion.isAbout entity ∧
            registry.resolve entity criterion.path = .ok target ∧
            target.field.coerceFor criterion.operation criterion.value = .ok value ∧
            make ⟨target, criterion.operation,
              Comparison.wrapped config criterion.operation value⟩ = .ok predicate) ∧
    ∀ filter, request.filterOf (Criterion.predicate registry config entity make) = .ok filter →
      ∃ tree known, request.compile = .ok tree ∧
        request.predicates (Criterion.predicate registry config entity make) = .ok known ∧
        filter = tree.substitute (Filter.ofId known) ∧
        (∀ id ∈ tree.leaves, ∃ predicate, Named.get? id known = some predicate ∧
          request.Resolves (Criterion.predicate registry config entity make) id predicate) ∧
        ∀ valuation, filter.holds valuation =
          tree.holds
            (request.truthOf (Criterion.predicate registry config entity make) valuation) := by
  constructor
  · -- a predicate is made in three steps: the path, the conversion, and what is made of both
    rw [filterOf_isOk_iff]
    refine and_congr_right fun _ => forall₂_congr fun group _ => forall₂_congr fun id _ => ?_
    constructor
    · rintro ⟨predicate, criterion, found, h⟩
      obtain ⟨comparison, compared, made⟩ := Outcome.bind_eq_ok_iff.1 h
      obtain ⟨about, target, value, resolved, converted, rfl⟩ :=
        Criterion.comparison_eq_ok_iff.1 compared
      exact ⟨criterion, target, value, predicate, found, about, resolved, converted, made⟩
    · rintro ⟨criterion, target, value, predicate, found, about, resolved, converted, made⟩
      have compared : criterion.comparison registry config entity =
          .ok ⟨target, criterion.operation, Comparison.wrapped config criterion.operation value⟩ :=
        Criterion.comparison_eq_ok_iff.2 ⟨about, target, value, resolved, converted, rfl⟩
      exact ⟨predicate, criterion, found, Outcome.bind_eq_ok_iff.2 ⟨_, compared, made⟩⟩
  · intro filter h
    obtain ⟨tree, known, compiles, made, same⟩ := filterOf_eq_ok_iff.1 h
    have there (id : String) (below : id ∈ tree.leaves) := exists_of_mem_leaves compiles made below
    exact ⟨tree, known, compiles, made, same, there, holds_filterOf h compiles⟩

/-- An entity type with a text for each criterion of `shared`. -/
def sharedRegistry : Registry where
  entities :=
    NameMap.empty.insert "Task" ⟨"Task", none, [⟨"a", .text⟩, ⟨"b", .text⟩, ⟨"c", .text⟩]⟩

theorem filterOf_evaluates_tree_shared :
    ∃ filter, shared.filterOf
        (Criterion.predicate sharedRegistry {} "Task" (.ok ∘ DocumentTest.ofComparison)) =
          .ok filter ∧
      (filter.holds fun test => test.passes (.object [("b", .text "x")])) = true ∧
      (filter.holds fun test => test.passes (.object [("c", .text "x")])) = false := by
  let resolve := Criterion.predicate sharedRegistry {} "Task" (.ok ∘ DocumentTest.ofComparison)
  obtain ⟨known, made⟩ : ∃ known, shared.predicates resolve = .ok known := ⟨_, by rfl⟩
  have filtered := filterOf_eq_ok_iff.2 ⟨sharedFilter, known, compile_shared, made, rfl⟩
  obtain ⟨_, evaluates⟩ :=
    filterOf_evaluates_tree shared sharedRegistry {} "Task" (.ok ∘ DocumentTest.ofComparison)
  obtain ⟨tree, _, compiles', _, _, _, holds⟩ := evaluates _ filtered
  obtain rfl : tree = sharedFilter := Except.ok.inj (compiles'.symm.trans compile_shared)
  refine ⟨_, filtered, ?_, ?_⟩
  · rw [holds]
    rfl
  · rw [holds]
    rfl

/-! ### Comparisons as predicates -/

section Comparisons

variable (request : Request) (registry : Registry) (config : Config) (entity : String)

/-- How true a document makes the criterion of an id. -/
def truth (document : Json) (id : String) : Bool :=
  match request.criterion? id with
  | some criterion => criterion.satisfiedBy registry config entity document
  | none => false

variable {request registry config entity}

/-- Where no id is declared twice, every criterion is found under its id. -/
theorem criterion?_of_mem (nodup : (request.criteria.map Criterion.id).Nodup)
    {criterion : Criterion} (mem : criterion ∈ request.criteria) :
    request.criterion? criterion.id = some criterion := by
  -- the induction is on the criteria, and the rest of the request does not matter
  obtain ⟨_, criteria, _, _⟩ := request
  change criteria.find? (·.id = criterion.id) = some criterion
  change (criteria.map Criterion.id).Nodup at nodup
  change criterion ∈ criteria at mem
  induction criteria with
  | nil => cases mem
  | cons head rest ih =>
    obtain ⟨new, nodup⟩ := List.nodup_cons.1 nodup
    rcases List.mem_cons.1 mem with rfl | mem
    · exact List.find?_cons_of_pos (by simp)
    · -- a criterion in front has another id
      have other : head.id ≠ criterion.id := fun same => new (same ▸ List.mem_map_of_mem mem)
      rw [List.find?_cons_of_neg (by simpa using other)]
      exact ih nodup mem

/-- The truth of the id of a criterion is the truth of the criterion. -/
theorem truth_of_mem (nodup : (request.criteria.map Criterion.id).Nodup)
    {criterion : Criterion} (mem : criterion ∈ request.criteria) (document : Json) :
    request.truth registry config entity document criterion.id =
      criterion.satisfiedBy registry config entity document := by
  rw [truth, criterion?_of_mem nodup mem]

theorem truth_eq_truthOf (document : Json) :
    request.truth registry config entity document =
      request.truthOf (Criterion.predicate registry config entity .ok) fun comparison =>
        (DocumentTest.ofComparison comparison).passes document := by
  funext id
  rw [truth, truthOf]
  cases request.criterion? id with
  | none => rfl
  | some criterion =>
    dsimp only
    rw [Criterion.satisfiedBy, Criterion.predicate_ok]
    cases criterion.comparison registry config entity <;> rfl

/-- A plan has a filter when the graph of its request compiles and all listed criteria can be
compared. -/
theorem filter_isOk_iff :
    (∃ filter, request.filter registry config entity = .ok filter) ↔
      (∃ tree, request.compile = .ok tree) ∧
        ∀ group ∈ request.groups, ∀ id ∈ group.criteria, ∃ comparison criterion,
          request.criterion? id = some criterion ∧
            criterion.comparison registry config entity = .ok comparison := by
  simp only [filter, filterOf_isOk_iff, Resolves, Criterion.predicate_ok]

/-- **A filter accepts what makes its tree true.** -/
theorem accepts_filter {filter : Filter Comparison} {tree : Filter String}
    (h : request.filter registry config entity = .ok filter) (compiles : request.compile = .ok tree)
    (document : Json) :
    filter.accepts document = tree.holds (request.truth registry config entity document) := by
  rw [truth_eq_truthOf]
  exact holds_filterOf h compiles _

end Comparisons

/-! ### Requests beside one another -/

variable {a b : Request}

theorem criterion?_append (id : String) :
    (a.append b).criterion? id = (a.criterion? id).or (b.criterion? id) :=
  List.find?_append

theorem criterion?_left (apart : a.Apart b) {id : String} (used : a.UsesCriterion id) :
    (a.append b).criterion? id = a.criterion? id := by
  have missing : b.criterion? id = none := by
    rw [← Option.not_isSome_iff_eq_none, criterion?_isSome_iff]
    exact fun declared => apart.criteria id used (Or.inl declared)
  rw [criterion?_append, missing, Option.or_none]

theorem criterion?_right (apart : a.Apart b) {id : String} (used : b.UsesCriterion id) :
    (a.append b).criterion? id = b.criterion? id := by
  have missing : a.criterion? id = none := by
    rw [← Option.not_isSome_iff_eq_none, criterion?_isSome_iff]
    exact fun declared => apart.criteria id (Or.inl declared) used
  rw [criterion?_append, missing, Option.none_or]

section Conjunction

variable (apart : a.Apart b) {first second : Filter String} (compiles₁ : a.compile = .ok first)
  (compiles₂ : b.compile = .ok second)

include apart compiles₁ compiles₂

/-- **Two requests without a common id** that compile have a filter together when each has one. -/
theorem filter_append_isOk_iff :
    (∃ filter, (a.append b).filter registry config entity = .ok filter) ↔
      (∃ left, a.filter registry config entity = .ok left) ∧
        ∃ right, b.filter registry config entity = .ok right := by
  obtain ⟨tree, compiles, _⟩ := compile_append apart compiles₁ compiles₂
  simp only [filter_isOk_iff]
  -- ids are looked up in the half that lists them
  constructor
  · rintro ⟨_, all⟩
    refine ⟨⟨⟨first, compiles₁⟩, fun group mem id listed => ?_⟩,
      ⟨second, compiles₂⟩, fun group mem id listed => ?_⟩
    · obtain ⟨comparison, resolves⟩ := all group (List.mem_append_left _ mem) id listed
      rw [criterion?_left apart (Or.inr ⟨group, mem, listed⟩)] at resolves
      exact ⟨comparison, resolves⟩
    · obtain ⟨comparison, resolves⟩ := all group (List.mem_append_right _ mem) id listed
      rw [criterion?_right apart (Or.inr ⟨group, mem, listed⟩)] at resolves
      exact ⟨comparison, resolves⟩
  · rintro ⟨⟨_, all⟩, _, all'⟩
    refine ⟨⟨tree, compiles⟩, fun group mem id listed => ?_⟩
    rcases List.mem_append.1 mem with mem | mem
    · rw [criterion?_left apart (Or.inr ⟨group, mem, listed⟩)]
      exact all group mem id listed
    · rw [criterion?_right apart (Or.inr ⟨group, mem, listed⟩)]
      exact all' group mem id listed

/-- The filter of both together is the conjunction of their filters. -/
theorem accepts_filter_append {filter left right : Filter Comparison}
    (h : (a.append b).filter registry config entity = .ok filter)
    (made : a.filter registry config entity = .ok left)
    (made' : b.filter registry config entity = .ok right) (document : Json) :
    filter.accepts document = (left.accepts document && right.accepts document) := by
  obtain ⟨tree, compiles, both⟩ := compile_append apart compiles₁ compiles₂
  -- each tree looks at its own criteria only, and these are found in the whole as in the part
  rw [accepts_filter h compiles, both, accepts_filter made compiles₁,
    accepts_filter made' compiles₂]
  congr 1
  · refine Filter.holds_congr fun id below => ?_
    have used : a.UsesCriterion id := Or.inr (listed_of_mem_leaves compiles₁ id below)
    rw [truth, truth, criterion?_left apart used]
  · refine Filter.holds_congr fun id below => ?_
    have used : b.UsesCriterion id := Or.inr (listed_of_mem_leaves compiles₂ id below)
    rw [truth, truth, criterion?_right apart used]

end Conjunction

/-- **The filter of two requests without a common id** is the conjunction of their filters, if the
first one has no merged groups. -/
theorem filter_append (apart : a.Apart b) (plain : a.merged.entries = [])
    {filter : Filter Comparison} (h : (a.append b).filter registry config entity = .ok filter) :
    ∃ left right, a.filter registry config entity = .ok left ∧
      b.filter registry config entity = .ok right ∧
        ∀ document,
          filter.accepts document = (left.accepts document && right.accepts document) := by
  obtain ⟨⟨tree, compiles⟩, _⟩ := filter_isOk_iff.1 ⟨filter, h⟩
  obtain ⟨⟨first, compiles₁⟩, ⟨second, compiles₂⟩⟩ := compile_of_append apart plain compiles
  obtain ⟨⟨left, made⟩, ⟨right, made'⟩⟩ :=
    (filter_append_isOk_iff apart compiles₁ compiles₂).1 ⟨filter, h⟩
  exact ⟨left, right, made, made', accepts_filter_append apart compiles₁ compiles₂ h made made'⟩

end Request

end EntitySearch
