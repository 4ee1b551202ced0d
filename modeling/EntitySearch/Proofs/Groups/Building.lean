import EntitySearch.Proofs.Groups.Compile
import EntitySearch.Request.Edit
import Mathlib.Data.List.Perm.Basic

/-!
# What building a request keeps

A request holds its criteria twice: in the list of criteria, and by their ids in the groups. Nothing
but the edits that build a request keeps the two in step. `Request.Intact` says that they are: the
groups list exactly the ids of the criteria, each as often as there are criteria of the id, and no
group is empty. The empty request is intact, every edit leaves an intact request intact
(`Edit.intact_apply`), and so does every history (`Edit.intact_applyAll`). The two are one
induction, since an edit may lay a request over the one in the making that has a history of its own.

Adding keeps the ids of groups distinct. Laying a request over another one keeps them distinct as
long as it does not bring a group under an id that is already there, and `Edit.IsFresh` says this of
all edits of a history.

An intact request lists no criterion that it does not have, so its compilation, if it fails, fails
for another reason (`Request.Intact.compile_ne_unknownCriterion`).
-/

namespace EntitySearch

namespace Request

variable {request : Request}

/-! ### Renaming in place -/

/-- Taking out a name that is not there changes nothing. -/
theorem erase_of_missing {merged : NameMap MergedGroup} {old : String}
    (missing : merged.get? old = none) : merged.erase old = merged := by
  obtain ⟨entries, rising⟩ := merged
  have absent : old ∉ entries.map Prod.fst := Named.get?_eq_none_iff.1 missing
  have same : Named.erase old entries = entries := by
    refine List.filter_eq_self.2 fun entry mem => ?_
    have other : entry.1 ≠ old := fun same => absent (same ▸ List.mem_map_of_mem mem)
    simpa using other
  simp only [NameMap.erase, same]

/-- **Renaming in place** answers as renaming does, and it leaves the request as it was when it
fails. -/
theorem renameInPlace_eq (request : Request) (old new : String) :
    request.renameInPlace old new =
      match request.rename old new with
      | .ok moved => (.ok (), moved)
      | .error fault => (.error fault, request) := by
  rw [renameInPlace, rename]
  split
  · rfl
  · split
    · rfl
    · cases found : request.merged.get? old with
      | none =>
        -- the declaration that was taken out had not been there
        rw [erase_of_missing found]
      | some group => rfl

/-- Renaming moves declarations of merged groups and nothing else. -/
theorem renameInPlace_keeps (request : Request) (old new : String) :
    (request.renameInPlace old new).2.groups = request.groups ∧
      (request.renameInPlace old new).2.criteria = request.criteria := by
  rw [renameInPlace]
  split
  · exact ⟨rfl, rfl⟩
  · split
    · exact ⟨rfl, rfl⟩
    · cases request.merged.get? old with
      | none => exact ⟨rfl, rfl⟩
      | some group => exact ⟨rfl, rfl⟩

/-! ### Intact requests -/

/-- **Intact requests**: the groups list the ids of all criteria, each as often as it is declared,
and no group is empty. -/
structure Intact (request : Request) : Prop where
  listed : (request.groups.flatMap Group.criteria).Perm (request.criteria.map Criterion.id)
  nonempty : ∀ group ∈ request.groups, group.criteria ≠ []

theorem Intact.empty : Request.empty.Intact where
  listed := List.Perm.nil
  nonempty := fun _ mem => nomatch mem

/-- A request stays intact when only its merged groups and its flags change. -/
theorem Intact.of_same {other : Request} (h : request.Intact)
    (groups : other.groups = request.groups) (criteria : other.criteria = request.criteria) :
    other.Intact where
  listed := groups ▸ criteria ▸ h.listed
  nonempty := groups ▸ h.nonempty

/-- One more id is listed. -/
theorem perm_flatMap_appendTo (id : String) (connective : Option Connective) (criterion : String)
    (groups : List Group) :
    ((appendTo id connective criterion groups).flatMap Group.criteria).Perm
      (groups.flatMap Group.criteria ++ [criterion]) := by
  induction groups with
  | nil => exact List.Perm.refl _
  | cons group rest ih =>
    rw [appendTo]
    split
    · simp only [List.flatMap_cons, List.append_assoc]
      exact List.Perm.append_left _ List.perm_append_comm
    · rw [List.flatMap_cons, List.flatMap_cons, List.append_assoc]
      exact ih.append_left _

/-- A group in which something is listed is not empty. -/
theorem criteria_ne_nil_of_mem_appendTo {id criterion : String} {connective : Option Connective}
    {groups : List Group} (nonempty : ∀ group ∈ groups, group.criteria ≠ []) :
    ∀ group ∈ appendTo id connective criterion groups, group.criteria ≠ [] := by
  induction groups with
  | nil =>
    intro group mem
    rw [List.mem_singleton.1 mem]
    exact List.cons_ne_nil _ _
  | cons head rest ih =>
    obtain ⟨first, others⟩ := List.forall_mem_cons.1 nonempty
    rw [appendTo]
    split
    · exact List.forall_mem_cons.2 ⟨List.append_ne_nil_of_right_ne_nil _ (by simp), others⟩
    · exact List.forall_mem_cons.2 ⟨first, ih others⟩

theorem Intact.add (h : request.Intact) (group : String) (connective : Option Connective)
    (criterion : Criterion) : (request.add group connective criterion).Intact where
  listed := by
    rw [Request.add, List.map_append]
    exact (perm_flatMap_appendTo _ _ _ _).trans (h.listed.append_right _)
  nonempty := criteria_ne_nil_of_mem_appendTo h.nonempty

theorem Intact.addAll (h : request.Intact) (group : String) (connective : Option Connective)
    (criteria : List Criterion) : (request.addAll group connective criteria).Intact := by
  induction criteria generalizing request with
  | nil => exact h
  | cons criterion rest ih => exact ih (h.add group connective criterion)

theorem Intact.append {other : Request} (h : request.Intact) (h' : other.Intact) :
    (request.append other).Intact where
  listed := by
    change ((request.groups ++ other.groups).flatMap Group.criteria).Perm
      ((request.criteria ++ other.criteria).map Criterion.id)
    rw [List.flatMap_append, List.map_append]
    exact h.listed.append h'.listed
  nonempty := fun group mem => (List.mem_append.1 mem).elim (h.nonempty group) (h'.nonempty group)

/-- The compiler of groups never looks a criterion up. -/
theorem compileId_ne_unknownCriterion (request : Request) (group criterion : String) :
    (∀ path done id,
      request.compileId path done id ≠ .error (.unknownCriterion group criterion)) ∧
    ∀ path done ids,
      request.compileIds path done ids ≠ .error (.unknownCriterion group criterion) := by
  refine compileId.mutual_induct request _ _ ?table ?onPath ?group ?below ?merged ?nil ?first ?rest
    ?cons
  case table =>
    intro path done id filter found h
    rw [compileId_of_done found] at h
    cases h
  -- the fault is a cycle
  case onPath =>
    intro path done id missing onPath h
    rw [compileId_of_mem_path missing onPath] at h
    exact GraphFault.noConfusion (Except.error.inj h)
  -- the fault is an unknown group, for its criteria are leaves that are not looked at
  case group =>
    intro path done id missing new undeclared h
    rw [compileId_of_undeclared missing new undeclared, groupFilter] at h
    split at h
    · cases h
    · exact GraphFault.noConfusion (Except.error.inj h)
  -- a fault below is passed on as it is
  case below =>
    intro path done id missing new merged declared fault failed ih h
    rw [compileId_of_declared missing new declared, failed] at h
    exact ih (failed.trans (congrArg Except.error (Except.error.inj h)))
  case merged =>
    intro path done id missing new merged declared children later run _ h
    rw [compileId_of_declared missing new declared, run] at h
    cases h
  case nil =>
    intro path done h
    rw [compileIds] at h
    cases h
  case first =>
    intro path done id rest fault failed ih h
    rw [compileIds, failed] at h
    exact ih (failed.trans (congrArg Except.error (Except.error.inj h)))
  case rest =>
    intro path done id rest first later run fault failed _ ih h
    rw [compileIds, run] at h
    simp only [failed] at h
    exact ih (failed.trans h)
  case cons =>
    intro path done id rest first middle run others later run' _ _ h
    rw [compileIds, run] at h
    simp only [run'] at h
    cases h

/-- **An intact request lists no unknown criterion**, so its compilation does not fail for one. -/
theorem Intact.compile_ne_unknownCriterion (h : request.Intact) (group criterion : String) :
    request.compile ≠ .error (.unknownCriterion group criterion) := by
  -- every criterion that a group lists is declared in the same order
  have declared : request.checkCriteria = .ok () := by
    refine checkCriteria_eq_ok_iff.2 fun other mem id listed => ?_
    have there : id ∈ request.criteria.map Criterion.id :=
      h.listed.subset (List.mem_flatMap.2 ⟨other, mem, listed⟩)
    exact List.mem_map.1 there
  intro failed
  -- the fault comes from one of the three steps that can fail
  rcases Outcome.bind_eq_error_iff.1 failed with unknown | ⟨_, _, failed⟩
  · -- the check of criteria succeeds
    rw [declared] at unknown
    cases unknown
  rcases Outcome.bind_eq_error_iff.1 failed with rootless | ⟨_, _, failed⟩
  · -- a missing root is another fault
    rw [checkRoot] at rootless
    split at rootless
    · exact GraphFault.noConfusion (Except.error.inj rootless)
    · cases rootless
  rcases Outcome.bind_eq_error_iff.1 failed with broken | ⟨_, _, failed⟩
  · -- merged groups fail as visits do
    rw [compileMerged] at broken
    split at broken
    · next fault run =>
      obtain rfl := Except.error.inj broken
      exact (compileId_ne_unknownCriterion request group criterion).2 _ _ _ run
    · cases broken
  · cases failed

/-! ### Distinct ids of groups -/

/-- A criterion is appended to a group that is there, or else to a new one behind all others. -/
theorem map_id_appendTo (id : String) (connective : Option Connective) (criterion : String)
    (groups : List Group) :
    (appendTo id connective criterion groups).map Group.id =
      if id ∈ groups.map Group.id then groups.map Group.id else groups.map Group.id ++ [id] := by
  induction groups with
  | nil => rfl
  | cons group rest ih =>
    by_cases same : group.id = id
    · simp [appendTo, same]
    · rw [appendTo, if_neg same, List.map_cons, ih, List.map_cons]
      by_cases there : id ∈ rest.map Group.id
      · rw [if_pos there, if_pos (List.mem_cons_of_mem _ there)]
      · rw [if_neg there, if_neg (by simpa [Ne.symm same] using there)]
        rfl

/-- **Requests in which each id is that of one group.** -/
def HasDistinctGroups (request : Request) : Prop := (request.groups.map Group.id).Nodup

theorem HasDistinctGroups.add (h : request.HasDistinctGroups) (group : String)
    (connective : Option Connective) (criterion : Criterion) :
    (request.add group connective criterion).HasDistinctGroups := by
  rw [HasDistinctGroups, Request.add, map_id_appendTo]
  split
  · exact h
  · next new => exact List.nodup_append.2 ⟨h, List.pairwise_singleton _ _, by simpa using new⟩

theorem HasDistinctGroups.addAll (h : request.HasDistinctGroups) (group : String)
    (connective : Option Connective) (criteria : List Criterion) :
    (request.addAll group connective criteria).HasDistinctGroups := by
  induction criteria generalizing request with
  | nil => exact h
  | cons criterion rest ih => exact ih (h.add group connective criterion)

theorem HasDistinctGroups.append {other : Request} (h : request.HasDistinctGroups)
    (h' : other.HasDistinctGroups)
    (new : ∀ group ∈ other.groups, ¬ request.hasGroup group.id) :
    (request.append other).HasDistinctGroups := by
  change ((request.groups ++ other.groups).map Group.id).Nodup
  rw [List.map_append]
  refine List.nodup_append.2 ⟨h, h', ?_⟩
  rintro id mem _ mem' rfl
  obtain ⟨late, inside, rfl⟩ := List.mem_map.1 mem'
  obtain ⟨early, inside', same⟩ := List.mem_map.1 mem
  exact new late inside (hasGroup_iff.2 ⟨early, inside', same⟩)

end Request

namespace Edit

open Request

/-! ### Histories -/

/-- **What an edit does** to groups and criteria: it adds criteria to one group, it leaves both
alone, or it lays a request over the one in the making. -/
theorem apply_cases (edit : Edit) (request : Request) :
    (∃ group connective criteria,
      (edit.apply request).2 = request.addAll group connective criteria) ∨
    ((edit.apply request).2.groups = request.groups ∧
      (edit.apply request).2.criteria = request.criteria) ∨
    ∃ history, edit = append history := by
  cases edit with
  | add group connective criterion => exact Or.inl ⟨group, connective, [criterion], rfl⟩
  | addIdEquals criterion group entity value => exact Or.inl ⟨group, some .and, [_], rfl⟩
  | addNotDeleted forFalse forNull entity => exact Or.inl ⟨deletedGroup, some .or, [_, _], rfl⟩
  | addOwnerAccess criterion entity owner =>
    rw [apply, Request.addOwnerAccess]
    -- a scope may forbid to add its owner group
    split
    · exact Or.inl ⟨ownerGroup, some .and, [_], rfl⟩
    · exact Or.inr (Or.inl ⟨rfl, rfl⟩)
  | setOwnerScoped allowed => exact Or.inr (Or.inl ⟨rfl, rfl⟩)
  | merge id connective members => exact Or.inr (Or.inl ⟨rfl, rfl⟩)
  | rename old new => exact Or.inr (Or.inl (renameInPlace_keeps request old new))
  | append history => exact Or.inr (Or.inr ⟨history, rfl⟩)

mutual

/-- **An edit keeps a request intact.** -/
theorem intact_apply (edit : Edit) {request : Request} (h : request.Intact) :
    (edit.apply request).2.Intact := by
  rcases apply_cases edit request with ⟨group, connective, criteria, added⟩ | ⟨groups, criteria⟩ |
    ⟨history, rfl⟩
  · rw [added]
    exact h.addAll group connective criteria
  · exact h.of_same groups criteria
  · exact h.append (intact_applyAll history Intact.empty)

/-- **A history of edits keeps a request intact.** -/
theorem intact_applyAll (history : List Edit) {request : Request} (h : request.Intact) :
    (applyAll history request).Intact := by
  cases history with
  | nil => exact h
  | cons edit rest => exact intact_applyAll rest (intact_apply edit h)

end

mutual

/-- **Edits that bring no group under an id that is already there**, neither when a request is laid
over another one nor in the history of that request. -/
def IsFresh : Edit → Request → Prop
  | append history, request =>
    AreFresh history .empty ∧
      ∀ group ∈ (applyAll history .empty).groups, ¬ request.hasGroup group.id
  | _, _ => True

/-- Histories of edits that bring no group under an id that is already there. -/
def AreFresh : List Edit → Request → Prop
  | [], _ => True
  | edit :: rest, request => IsFresh edit request ∧ AreFresh rest (edit.apply request).2

end

mutual

/-- **A fresh edit keeps the ids of groups distinct.** -/
theorem distinct_apply (edit : Edit) {request : Request} (fresh : edit.IsFresh request)
    (h : request.HasDistinctGroups) : (edit.apply request).2.HasDistinctGroups := by
  rcases apply_cases edit request with ⟨group, connective, criteria, added⟩ | ⟨groups, _⟩ |
    ⟨history, rfl⟩
  · rw [added]
    exact h.addAll group connective criteria
  · rw [HasDistinctGroups, groups]
    exact h
  · obtain ⟨within, new⟩ := fresh
    exact h.append (distinct_applyAll history within List.nodup_nil) new

/-- **A history of fresh edits keeps the ids of groups distinct.** -/
theorem distinct_applyAll (history : List Edit) {request : Request}
    (fresh : AreFresh history request) (h : request.HasDistinctGroups) :
    (applyAll history request).HasDistinctGroups := by
  cases history with
  | nil => exact h
  | cons edit rest => exact distinct_applyAll rest fresh.2 (distinct_apply edit fresh.1 h)

end

/-- **What building a request keeps.** Whatever the history, the groups list exactly the ids of the
criteria, each as often as it is declared, no group is empty, and the request does not fail to
compile for a criterion that is unknown. Its groups have distinct ids as long as no request has been
laid over another one that has a group of the same id. A renaming that fails leaves the request as
it was. -/
theorem built_keeps (history : List Edit) :
    ((built history).groups.flatMap Group.criteria).Perm
        ((built history).criteria.map Criterion.id) ∧
      (∀ group ∈ (built history).groups, group.criteria ≠ []) ∧
      (AreFresh history .empty → ((built history).groups.map Group.id).Nodup) ∧
      (∀ old new fault left, (rename old new).apply (built history) = (.error fault, left) →
        left = built history) ∧
      ∀ group criterion, (built history).compile ≠ .error (.unknownCriterion group criterion) := by
  have intact : (built history).Intact := intact_applyAll history Intact.empty
  refine ⟨intact.listed, intact.nonempty, fun fresh => ?_, fun old new fault left failed => ?_,
    intact.compile_ne_unknownCriterion⟩
  · exact distinct_applyAll history fresh List.nodup_nil
  · rw [apply, renameInPlace_eq] at failed
    split at failed
    · cases failed
    · exact (Prod.mk.inj failed).2.symm

/-- A history with a renaming that fails and a request that is laid over the one in the making. -/
def taskHistory : List Edit :=
  [add "open" (some .or) ⟨"1", "Task", "status", .equals, .text "OPEN"⟩,
    addNotDeleted "2" "3" "Task", merge "M" .and ["open"], rename "N" "M",
    rename "M" finalGroup,
    append [add "mine" none ⟨"4", "Task", "owner", .equals, .text "me"⟩, setOwnerScoped false],
    addIdEquals "5" "open" "Task" (.integer 7)]

theorem built_keeps_taskHistory :
    AreFresh taskHistory .empty ∧
      ((built taskHistory).groups.map Group.id).Nodup ∧
      (rename "N" "K").apply (built taskHistory) =
        (.error (.mergedGroupMissing "N"), built taskHistory) ∧
      ["1", "5", "2", "3", "4"].Perm ((built taskHistory).criteria.map Criterion.id) := by
  obtain ⟨listed, _, distinct, unchanged, _⟩ := built_keeps taskHistory
  have fresh : AreFresh taskHistory .empty := by
    refine ⟨trivial, trivial, trivial, trivial, trivial, ⟨⟨trivial, trivial, trivial⟩, ?_⟩,
      trivial, trivial⟩
    decide
  obtain ⟨left, failed⟩ : ∃ left, (rename "N" "K").apply (built taskHistory) =
      (.error (.mergedGroupMissing "N"), left) := ⟨_, by rfl⟩
  obtain rfl := unchanged _ _ _ _ failed
  exact ⟨fresh, distinct fresh, failed, listed⟩

end Edit

end EntitySearch
