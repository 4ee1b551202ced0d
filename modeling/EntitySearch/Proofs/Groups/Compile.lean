import EntitySearch.Proofs.Groups.Unfolding
import EntitySearch.Proofs.Outcome

/-!
# What the compiler of groups accepts

The compiler visits the graph of groups depth first. It keeps the filters of finished merged groups
in a table, and the merged groups that are open on a path. Both carry an invariant, one for each
direction of `compile_isOk_iff`:

* **the table is sound** (`Sound`): each of its filters is the unfolding of its id. A compilation
  that succeeds therefore yields unfoldings, and it leaves an entry for every merged group it met
  (`compileId_run`). A request that compiles has an unfolding for each of its merged groups, and an
  id that unfolds reaches no cycle;
* **the path leads to the id** that is visited next: every id on it reaches that id by `Lists`. In a
  well-formed graph the visited id cannot be on its own path, so the visit does not fail
  (`compileId_total`).

The two runs are inductions along the recursion of the compiler, which has a case for an id and one
for a list of ids. Nothing depends on the order in which the merged groups are visited.
-/

namespace EntitySearch

namespace Request

variable {request : Request}

/-! ### Soundness of the table -/

/-- Every filter in the table is the unfolding of its id. -/
def Sound (request : Request) (done : Compiled) : Prop := Named.Every request.Unfolds done

/-- The ids with an entry in a table. -/
def Covers (done : Compiled) (id : String) : Prop := (Named.get? id done).isSome

/-- **What a compilation leaves behind**: a sound table that still has the entries it had before. -/
structure Progress (request : Request) (done later : Compiled) : Prop where
  sound : request.Sound later
  grown : ∀ id, Covers done id → Covers later id

theorem Progress.refl {done : Compiled} (sound : request.Sound done) : request.Progress done done :=
  ⟨sound, fun _ h => h⟩

theorem Progress.trans {a b c : Compiled} (hab : request.Progress a b)
    (hbc : request.Progress b c) :
    request.Progress a c :=
  ⟨hbc.sound, fun id h => hbc.grown id (hab.grown id h)⟩

/-- Adding an unfolding to the table is progress. -/
theorem Progress.cons {done : Compiled} {id : String} {filter : Filter String}
    (sound : request.Sound done) (h : request.Unfolds id filter) :
    request.Progress done ((id, filter) :: done) := by
  exact ⟨sound.cons h, fun _ => Named.isSome_get?_cons (id, filter)⟩

/-- A group that is looked up unfolds into the filter that is found. -/
theorem unfolds_of_groupFilter {id : String} {filter : Filter String}
    (undeclared : request.merged.get? id = none) (h : request.groupFilter id = .ok filter) :
    request.Unfolds id filter := by
  unfold groupFilter at h
  split at h
  · next group found =>
    obtain rfl := Except.ok.inj h
    exact Unfolds.group undeclared found
  · cases h

/-- **Compilations that succeed.** From a sound table, the compiler yields the unfolding of an id,
and one unfolding for each id of a list. It leaves a sound table that has the merged groups among
these ids. -/
theorem compileId_run (request : Request) :
    (∀ path done id, request.Sound done → ∀ filter later,
      request.compileId path done id = .ok (filter, later) →
        request.Unfolds id filter ∧ request.Progress done later ∧
          (request.merged.contains id → Covers later id)) ∧
    ∀ path done ids, request.Sound done → ∀ filters later,
      request.compileIds path done ids = .ok (filters, later) →
        List.Forall₂ request.Unfolds ids filters ∧ request.Progress done later ∧
          ∀ id ∈ ids, request.merged.contains id → Covers later id := by
  refine compileId.mutual_induct request _ _ ?table ?onPath ?group ?below ?merged ?nil ?first ?rest
    ?cons
  -- the table is sound, and nothing is added to it
  case table =>
    intro path done id filter found sound result later h
    rw [compileId_of_done found] at h
    obtain ⟨rfl, rfl⟩ := Prod.mk.inj (Except.ok.inj h)
    refine ⟨sound id filter found, Progress.refl sound, fun _ => ?_⟩
    rw [Covers, found]
    rfl
  -- a cycle is a failure
  case onPath =>
    intro path done id missing onPath sound filter later h
    rw [compileId_of_mem_path missing onPath] at h
    cases h
  -- an id without a merged group is that of a group, which is not put into the table
  case group =>
    intro path done id missing new undeclared sound filter later h
    rw [compileId_of_undeclared missing new undeclared] at h
    obtain ⟨_, found, eq⟩ := Outcome.map_eq_ok_iff.1 h
    obtain ⟨rfl, rfl⟩ := Prod.mk.inj eq
    refine ⟨unfolds_of_groupFilter undeclared found, Progress.refl sound, fun declared => ?_⟩
    exact absurd declared (NameMap.get?_eq_none_iff.1 undeclared)
  case below =>
    intro path done id missing new group declared fault failed _ sound filter later h
    rw [compileId_of_declared missing new declared, failed] at h
    cases h
  -- the members come first, and with them the merged group unfolds and is put into the table
  case merged =>
    intro path done id missing new group declared children later run ih sound filter last h
    rw [compileId_of_declared missing new declared, run] at h
    obtain ⟨rfl, rfl⟩ := Prod.mk.inj (Except.ok.inj h)
    obtain ⟨below, progress, _⟩ := ih sound children later run
    -- the members may name an id twice, with the same filter both times
    obtain ⟨tree, rfl, members⟩ := exists_tree_of_forall₂ below
    have unfolds := Unfolds.merged tree declared members
    refine ⟨unfolds, progress.trans (Progress.cons progress.sound unfolds), fun _ => ?_⟩
    rw [Covers, Named.get?_cons_self]
    rfl
  case nil =>
    intro path done sound filters later h
    rw [compileIds] at h
    obtain ⟨rfl, rfl⟩ := Prod.mk.inj (Except.ok.inj h)
    exact ⟨List.Forall₂.nil, Progress.refl sound, fun id mem => nomatch mem⟩
  case first =>
    intro path done id rest fault failed _ sound filters later h
    rw [compileIds, failed] at h
    cases h
  case rest =>
    intro path done id rest first later run fault failed _ _ sound filters last h
    rw [compileIds, run] at h
    simp only [failed] at h
    cases h
  case cons =>
    intro path done id rest first middle run others later run' ih ih' sound filters last h
    rw [compileIds, run] at h
    simp only [run'] at h
    obtain ⟨rfl, rfl⟩ := Prod.mk.inj (Except.ok.inj h)
    obtain ⟨unfolds, progress, covered⟩ := ih sound first middle run
    -- the visits that follow keep what the first one has put into the table
    obtain ⟨below, progress', covered'⟩ := ih' progress.sound others later run'
    refine ⟨List.Forall₂.cons unfolds below, progress.trans progress', fun other mem declared => ?_⟩
    rcases List.mem_cons.1 mem with rfl | mem
    · exact progress'.grown other (covered declared)
    · exact covered' other mem declared

/-! ### Visits that cannot fail -/

/-- A group that is declared has a filter. -/
theorem exists_groupFilter {id : String} (declared : request.hasGroup id) :
    ∃ filter, request.groupFilter id = .ok filter := by
  obtain ⟨group, found⟩ := Option.isSome_iff_exists.1 declared
  refine ⟨group.filter, ?_⟩
  rw [groupFilter, found]

/-- **Compilations cannot fail** in a graph without cycles in which every member is declared, as
long as the id that is visited is declared and every id on the path reaches it. -/
theorem compileId_total (members : ∀ k j, request.Lists k j → request.Declares j)
    (acyclic : ∀ k, ¬ Relation.TransGen request.Lists k k) :
    (∀ path done id, request.Declares id →
      (∀ k ∈ path, Relation.TransGen request.Lists k id) →
        ∃ result, request.compileId path done id = .ok result) ∧
    ∀ path done ids, (∀ id ∈ ids, request.Declares id) →
      (∀ k ∈ path, ∀ id ∈ ids, Relation.TransGen request.Lists k id) →
        ∃ result, request.compileIds path done ids = .ok result := by
  -- a visit goes on to the members with the visited id at the end of the path
  have enter : ∀ {path : List String} {id : String} {group : MergedGroup},
      request.merged.get? id = some group →
      (∀ k ∈ path, Relation.TransGen request.Lists k id) →
      ∀ k ∈ path ++ [id], ∀ j ∈ group.members, Relation.TransGen request.Lists k j := by
    intro path id group declared reaches k mem j listed
    have edge : request.Lists id j := ⟨group, declared, listed⟩
    rcases List.mem_append.1 mem with mem | mem
    · exact (reaches k mem).tail edge
    · obtain rfl := List.mem_singleton.1 mem
      exact Relation.TransGen.single edge
  refine compileId.mutual_induct request _ _ ?table ?onPath ?group ?below ?merged ?nil ?first ?rest
    ?cons
  case table =>
    intro path done id filter found _ _
    exact ⟨_, compileId_of_done found⟩
  case onPath =>
    -- an id on its own path would be reached from itself
    intro path done id _ onPath _ reaches
    exact absurd (reaches id onPath) (acyclic id)
  -- the id is declared, and not as a merged group
  case group =>
    intro path done id missing new undeclared declares _
    rw [compileId_of_undeclared missing new undeclared]
    rcases declares with declared | declared
    · exact absurd declared (NameMap.get?_eq_none_iff.1 undeclared)
    · obtain ⟨filter, found⟩ := exists_groupFilter declared
      rw [found]
      exact ⟨_, rfl⟩
  -- a visit below would have failed, which it cannot by induction
  case below =>
    intro path done id _ _ group declared fault failed ih _ reaches
    obtain ⟨result, run⟩ :=
      ih (fun j listed => members id j ⟨group, declared, listed⟩) (enter declared reaches)
    rw [failed] at run
    cases run
  -- nothing fails behind the visits to the members
  case merged =>
    intro path done id missing new group declared children later run _ _ _
    rw [compileId_of_declared missing new declared, run]
    exact ⟨_, rfl⟩
  case nil =>
    intro path done _ _
    rw [compileIds]
    exact ⟨_, rfl⟩
  case first =>
    intro path done id rest fault failed ih declares reaches
    obtain ⟨result, run⟩ :=
      ih (declares id List.mem_cons_self) fun k mem => reaches k mem id List.mem_cons_self
    rw [failed] at run
    cases run
  case rest =>
    intro path done id rest first later _ fault failed _ ih declares reaches
    obtain ⟨result, run⟩ :=
      ih (fun j mem => declares j (List.mem_cons_of_mem _ mem))
        fun k mem j mem' => reaches k mem j (List.mem_cons_of_mem _ mem')
    rw [failed] at run
    cases run
  case cons =>
    intro path done id rest first middle run others later run' _ _ _ _
    rw [compileIds, run]
    simp only [run']
    exact ⟨_, rfl⟩

/-! ### The checks in front of the compilation -/

theorem criterion?_isSome_iff {id : String} :
    (request.criterion? id).isSome ↔ ∃ criterion ∈ request.criteria, criterion.id = id := by
  simp [criterion?, List.find?_isSome]

theorem checkCriteria_eq_ok_iff :
    request.checkCriteria = .ok () ↔
      ∀ group ∈ request.groups, ∀ id ∈ group.criteria, ∃ criterion ∈ request.criteria,
        criterion.id = id := by
  rw [checkCriteria, Outcome.forM_eq_ok_iff]
  refine forall₂_congr fun group _ => ?_
  constructor
  · intro h id mem
    rw [← criterion?_isSome_iff]
    split at h
    · cases h
    · next none =>
      -- no criterion of the group is missing
      have known := List.find?_eq_none.1 none id mem
      simpa [Option.isSome_iff_ne_none] using known
  · intro h
    split
    -- the first criterion that is missing would be one that is declared
    · next missing found =>
      have unknown := List.find?_some found
      have known := criterion?_isSome_iff.2 (h missing (List.mem_of_find?_eq_some found))
      simp [Option.isSome_iff_ne_none.1 known] at unknown
    · rfl

theorem checkRoot_eq_ok_iff :
    request.checkRoot = .ok () ↔ request.merged.entries = [] ∨
      request.merged.contains finalGroup := by
  unfold checkRoot
  split
  · next refused => simpa using refused
  · next accepted => simpa [or_iff_not_imp_left] using accepted

/-! ### Compiling a request -/

/-- The table that is left when all merged groups have been compiled. -/
theorem compileMerged_run {done : Compiled} (h : request.compileMerged = .ok done) :
    request.Sound done ∧ ∀ id, request.merged.contains id → Covers done id := by
  unfold compileMerged at h
  split at h
  · cases h
  · next filters later run =>
    obtain rfl := Except.ok.inj h
    -- the compiler has visited the names of all merged groups, starting with an empty table
    obtain ⟨_, progress, covered⟩ :=
      (compileId_run request).2 [] [] _ Named.Every.nil filters later run
    exact ⟨progress.sound, fun id declared => covered id (NameMap.contains_iff.1 declared) declared⟩

/-- All merged groups compile in a graph without cycles in which every member is declared. -/
theorem compileMerged_total (members : ∀ k j, request.Lists k j → request.Declares j)
    (acyclic : ∀ k, ¬ Relation.TransGen request.Lists k k) :
    ∃ done, request.compileMerged = .ok done := by
  -- on the empty path nothing has to reach the ids
  obtain ⟨⟨filters, done⟩, run⟩ :=
    (compileId_total members acyclic).2 [] [] request.merged.names
      (fun id mem => Or.inl (NameMap.contains_iff.2 mem)) (fun k mem => nomatch mem)
  refine ⟨done, ?_⟩
  rw [compileMerged, run]

/-- The part of a filter that comes from the merged groups: nothing without merged groups, and else
the unfolding of the root. -/
inductive Rooted (request : Request) : List (Filter String) → Prop where
  | none : request.merged.entries = [] → Rooted request []
  | root {filter : Filter String} : request.merged.contains finalGroup →
      request.Unfolds finalGroup filter → Rooted request [filter]

theorem entries_ne_nil {id : String} (declared : request.merged.contains id) :
    request.merged.entries ≠ [] := by
  intro empty
  rw [NameMap.contains_iff, NameMap.names, empty] at declared
  cases declared

/-- There is one part that comes from the merged groups. -/
theorem Rooted.unique {a b : List (Filter String)} (ha : request.Rooted a) (hb : request.Rooted b) :
    a = b := by
  cases ha with
  | none empty =>
    cases hb with
    | none _ => rfl
    | root declared _ => exact absurd empty (entries_ne_nil declared)
  | root declared unfolds =>
    cases hb with
    | none empty => exact absurd empty (entries_ne_nil declared)
    | root _ unfolds' => rw [unfolds.unique unfolds']

/-- The root as it is found in the table. -/
theorem rooted_of_compileMerged {done : Compiled} (h : request.compileMerged = .ok done)
    (root : request.merged.entries = [] ∨ request.merged.contains finalGroup) :
    request.Rooted (Named.get? finalGroup done).toList := by
  rcases root with empty | declared
  -- without merged groups the compiler has nothing to visit
  · have nothing : done = [] := by
      rw [compileMerged, NameMap.names, empty, List.map_nil, compileIds] at h
      exact (Except.ok.inj h).symm
    subst nothing
    exact Rooted.none empty
  · obtain ⟨sound, covered⟩ := compileMerged_run h
    obtain ⟨filter, found⟩ := Option.isSome_iff_exists.1 (covered finalGroup declared)
    rw [found]
    exact Rooted.root declared (sound finalGroup filter found)

/-- **What compiles into what.** A request compiles when its criteria are declared, it has a root,
and all merged groups unfold; the filter joins the unfolding of the root with the standalone
groups. -/
theorem compile_eq_ok_iff {filter : Filter String} :
    request.compile = .ok filter ↔
      (∀ group ∈ request.groups, ∀ id ∈ group.criteria, ∃ criterion ∈ request.criteria,
        criterion.id = id) ∧
      (∀ id, request.merged.contains id → ∃ below, request.Unfolds id below) ∧
      ∃ roots, request.Rooted roots ∧
        filter = conjoin (roots ++ request.standalone.map Group.filter) := by
  constructor
  · intro h
    -- a compilation that succeeds has passed all three steps
    obtain ⟨_, criteria, h⟩ := Outcome.bind_eq_ok_iff.1 h
    obtain ⟨_, root, h⟩ := Outcome.bind_eq_ok_iff.1 h
    obtain ⟨done, merged, h⟩ := Outcome.bind_eq_ok_iff.1 h
    obtain ⟨sound, covered⟩ := compileMerged_run merged
    refine ⟨checkCriteria_eq_ok_iff.1 criteria, fun id declared => ?_, _,
      rooted_of_compileMerged merged (checkRoot_eq_ok_iff.1 root), (Except.ok.inj h).symm⟩
    obtain ⟨below, found⟩ := Option.isSome_iff_exists.1 (covered id declared)
    exact ⟨below, sound id below found⟩
  · rintro ⟨criteria, all, roots, rooted, rfl⟩
    -- every merged group that unfolds has declared members and no cycle below, so the visits
    -- succeed
    have root : request.merged.entries = [] ∨ request.merged.contains finalGroup := by
      cases rooted with
      | none empty => exact Or.inl empty
      | root declared _ => exact Or.inr declared
    obtain ⟨done, merged⟩ :=
      compileMerged_total (fun k j => declares_of_unfolds all) (acyclic_of_unfolds all)
    rw [rooted.unique (rooted_of_compileMerged merged root), compile,
      checkCriteria_eq_ok_iff.2 criteria,
      checkRoot_eq_ok_iff.2 root, merged]
    rfl

/-- **What the compiler accepts.** A request compiles exactly when its graph is well-formed, and a
request that does not compile fails in the resolution of its groups. -/
theorem compile_isOk_iff (request : Request) :
    ((∃ filter, request.compile = .ok filter) ↔ request.WellFormed) ∧
      (¬ request.WellFormed → ∃ fault, request.compile = .error fault ∧
        (SearchError.graph fault).kind = "GroupResolution") := by
  -- without a cycle and with all members declared everything unfolds, and the other way around
  have accepts : (∃ filter, request.compile = .ok filter) ↔ request.WellFormed := by
    constructor
    · rintro ⟨filter, h⟩
      obtain ⟨criteria, all, roots, rooted, -⟩ := compile_eq_ok_iff.1 h
      refine ⟨criteria, ?_, fun k j => declares_of_unfolds all, acyclic_of_unfolds all⟩
      cases rooted with
      | none empty => exact Or.inl empty
      | root declared _ => exact Or.inr declared
    · intro wellFormed
      obtain ⟨done, merged⟩ := compileMerged_total wellFormed.members wellFormed.acyclic
      rw [compile, checkCriteria_eq_ok_iff.2 wellFormed.criteria,
        checkRoot_eq_ok_iff.2 wellFormed.root, merged]
      exact ⟨_, rfl⟩
  refine ⟨accepts, fun refused => ?_⟩
  -- whatever the fault is, the search reports it as one of the groups
  obtain ⟨fault, h⟩ := Outcome.exists_error_iff.2 (fun ok => refused (accepts.1 ok))
  exact ⟨fault, h, rfl⟩

end Request

end EntitySearch
