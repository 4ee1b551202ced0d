import EntitySearch.Proofs.Documents.Places
import EntitySearch.Proofs.Metadata.Paths
import EntitySearch.Store.Memory
import Mathlib

/-!
# Projections show a part of the document

A projection is built by putting one value after another into an object. A value that is put at a
path replaces what is there, and puts objects in the place of what is no object on the way. So a
path could undo what an earlier one has put: a parent after its child, a child after its parent, or
a path through the `id`.

That it does not is because all values come from one document. `Shows document kept data` says what
the data look like once the paths in `kept` are put. At and below these paths the data show what the
document shows, on the way to them there are objects, and there is nothing elsewhere. Putting the
value of one more path keeps this (`Shows.put`). Where the path is new, its value is added beside
the others. Where it leads into a value that is already there, the value that it puts is there as
well, and putting it changes nothing (`Json.putAt_self`). Where it is above other ones, their values
are replaced by a value that has them inside.

What the data look like is said without the order in which the paths are put, and there is only one
such object (`Shows.unique`). So every list of the same attributes gives the same projection.
-/

namespace EntitySearch

/-! ### Putting a value at a path -/

namespace Json

/-- The members of the object at a place; none where no object is. -/
def membersAt (place : List String) (document : Json) : List (String × Json) :=
  ((document.at? place).map membersOrNone).getD []

section Putting

variable {path place rest : List String} {value : Json} {members : List (String × Json)}

theorem putAt_cons (goesOn : path ≠ []) (name : String) :
    putAt (name :: path) value members =
      Named.put name (object (putAt path value (membersAt [name] (object members)))) members := by
  obtain ⟨next, path, rfl⟩ := List.exists_cons_of_ne_nil goesOn
  rw [putAt, membersAt, at?_singleton]
  rfl

/-- The members of an inner object are seen behind its name. -/
theorem at?_membersAt (inside : place ≠ []) (name : String) :
    (object (membersAt [name] (object members))).at? place =
      (object members).at? (name :: place) := by
  obtain ⟨next, place, rfl⟩ := List.exists_cons_of_ne_nil inside
  rw [membersAt, at?_singleton, at?_object members, member?]
  cases Named.get? name members with
  | none => rfl
  | some inner => cases inner <;> rfl

theorem membersAt_cons (name : String) :
    membersAt place (object (membersAt [name] (object members))) =
      membersAt (name :: place) (object members) := by
  cases place with
  | nil => rfl
  | cons next place => rw [membersAt, at?_membersAt (List.cons_ne_nil next place), membersAt]

/-- **At the path and below** there is the value that is put. -/
theorem at?_putAt_below (nonempty : path ≠ []) :
    (object (putAt path value members)).at? (path ++ rest) = value.at? rest := by
  induction path generalizing members with
  | nil => exact absurd rfl nonempty
  | cons name path ih =>
    rw [List.cons_append, at?_object]
    rcases eq_or_ne path [] with rfl | goesOn
    · rw [putAt, Named.get?_put, if_pos rfl]
      rfl
    · rw [putAt_cons goesOn, Named.get?_put, if_pos rfl]
      exact ih goesOn

/-- **Above the path** the value is put into the members that are there. -/
theorem at?_putAt_above (below : rest ≠ []) :
    (object (putAt (place ++ rest) value members)).at? place =
      some (object (putAt rest value (membersAt place (object members)))) := by
  induction place generalizing members with
  | nil => rfl
  | cons name place ih =>
    have goesOn : place ++ rest ≠ [] := List.append_ne_nil_of_right_ne_nil place below
    rw [List.cons_append, putAt_cons goesOn, at?_object, Named.get?_put, if_pos rfl,
      Option.bind_some, ih, membersAt_cons]

/-- **Apart from the path** everything stays as it is. -/
theorem at?_putAt_apart (notBelow : ¬ path <+: place) (notAbove : ¬ place <+: path) :
    (object (putAt path value members)).at? place = (object members).at? place := by
  induction path generalizing place members with
  | nil => exact absurd List.nil_prefix notBelow
  | cons name path ih =>
    cases place with
    | nil => exact absurd List.nil_prefix notAbove
    | cons other place =>
      rw [List.cons_prefix_cons] at notBelow notAbove
      by_cases same : name = other
      · subst same
        replace notBelow : ¬ path <+: place := fun h => notBelow ⟨rfl, h⟩
        replace notAbove : ¬ place <+: path := fun h => notAbove ⟨rfl, h⟩
        -- both go on behind the name, or one would be above the other
        have goesOn : path ≠ [] := fun h => notBelow (h ▸ List.nil_prefix)
        have inside : place ≠ [] := fun h => notAbove (h ▸ List.nil_prefix)
        rw [putAt_cons goesOn, at?_object, Named.get?_put, if_pos rfl, Option.bind_some,
          ih notBelow notAbove, at?_membersAt inside]
      · -- the first names differ already, and the value is put under the name of the path
        rcases eq_or_ne path [] with rfl | goesOn
        · rw [putAt, at?_object, Named.get?_put, if_neg same, at?_object]
        · rw [putAt_cons goesOn, at?_object, Named.get?_put, if_neg same, at?_object]

/-- How a place lies to a path: at or below it, above it, or apart from it. -/
theorem place_cases (path place : List String) :
    (∃ rest, place = path ++ rest) ∨ (∃ rest, rest ≠ [] ∧ path = place ++ rest) ∨
      ¬ path <+: place ∧ ¬ place <+: path := by
  by_cases below : path <+: place
  · obtain ⟨rest, rfl⟩ := below
    exact .inl ⟨rest, rfl⟩
  · by_cases above : place <+: path
    · obtain ⟨rest, rfl⟩ := above
      refine .inr (.inl ⟨rest, ?_, rfl⟩)
      rintro rfl
      exact below (by rw [List.append_nil])
    · exact .inr (.inr ⟨below, above⟩)

theorem rising_putAt (rising : Named.Rising members) :
    Named.Rising (putAt path value members) := by
  match path with
  | [] => exact rising
  | [_] => exact Named.rising_put rising
  | _ :: _ :: _ => exact Named.rising_put rising

theorem rising_membersAt {document : Json} (sorted : document.Sorted) :
    Named.Rising (membersAt place document) := by
  unfold membersAt
  cases found : document.at? place with
  | none => exact List.Pairwise.nil
  | some inner =>
    cases inner with
    | object members => exact sorted place members found
    | _ => exact List.Pairwise.nil

/-- Putting a sorted value keeps an object sorted. -/
theorem Sorted.putAt (sorted : (object members).Sorted) (sorted' : value.Sorted)
    (nonempty : path ≠ []) : (object (putAt path value members)).Sorted := by
  intro place inner found
  rcases place_cases path place with ⟨rest, rfl⟩ | ⟨rest, below, rfl⟩ | ⟨notBelow, notAbove⟩
  · rw [at?_putAt_below nonempty] at found
    exact sorted' rest inner found
  · rw [at?_putAt_above below] at found
    obtain rfl := object.inj (Option.some.inj found)
    exact rising_putAt (rising_membersAt sorted)
  · rw [at?_putAt_apart notBelow notAbove] at found
    exact sorted place inner found

/-- **Putting what is there already changes nothing.** -/
theorem putAt_self (sorted : (object members).Sorted)
    (found : (object members).at? path = some value) : Json.putAt path value members = members := by
  induction path generalizing members with
  | nil => rfl
  | cons name path ih =>
    rw [at?_object] at found
    obtain ⟨inner, there, behind⟩ := Option.bind_eq_some_iff.1 found
    -- the value is there itself, or it is in an object that is there
    rcases eq_or_ne path [] with rfl | goesOn
    · obtain rfl : inner = value := Option.some.inj behind
      exact Named.put_self sorted.rising there
    · obtain ⟨inside, rfl⟩ := exists_object_of_at? goesOn behind
      have opened : membersAt [name] (object members) = inside := by
        rw [membersAt, at?_singleton, member?, there]
        rfl
      rw [putAt_cons goesOn, opened, ih (sorted.member there) behind]
      exact Named.put_self sorted.rising there

end Putting

end Json

namespace Projection

open Json (putAt)

/-! ### What is shown when some paths are kept -/

/-- A place is covered by paths when it lies at or below one of them. -/
def Covered (paths : Set (List String)) (place : List String) : Prop :=
  ∃ path ∈ paths, path <+: place

/-- A place is passed by paths when one of them leads through it. Every path starts at the
document. -/
def Passed (paths : Set (List String)) (place : List String) : Prop :=
  place = [] ∨ ∃ path ∈ paths, place <+: path

section Covering

variable {paths : Set (List String)} {path place : List String}

theorem Covered.of_mem (mem : path ∈ paths) : Covered paths path := ⟨path, mem, List.prefix_rfl⟩

theorem covered_insert_iff :
    Covered (insert path paths) place ↔ path <+: place ∨ Covered paths place := by
  simp [Covered]

theorem passed_insert_iff :
    Passed (insert path paths) place ↔ place <+: path ∨ Passed paths place := by
  simp only [Passed, Set.mem_insert_iff, exists_eq_or_imp]
  exact or_left_comm

end Covering

/-- **What is shown of a document** when some of its paths are kept: the document at these paths,
objects on the way to them and nothing elsewhere. -/
structure Shows (document : Json) (kept : Set (List String)) (data : Json) : Prop where
  found : ∀ path ∈ kept, path ≠ [] ∧ ∃ value, document.at? path = some value
  sorted : data.Sorted
  covered : ∀ place, Covered kept place → data.at? place = document.at? place
  passed : ∀ place, Passed kept place → ¬ Covered kept place →
    ∃ members, data.at? place = some (.object members)
  outside : ∀ place, ¬ Passed kept place → ¬ Covered kept place → data.at? place = none

namespace Shows

variable {document data : Json} {kept : Set (List String)} {members : List (String × Json)}
  {path : List String}

/-- Only one object shows the kept paths of a document. -/
theorem unique {other : Json} (first : Shows document kept data)
    (second : Shows document kept other) : data = other := by
  refine first.sorted.eq_of_alike second.sorted fun place => ?_
  by_cases covered : Covered kept place
  · exact .inl ((first.covered place covered).trans (second.covered place covered).symm)
  · by_cases passed : Passed kept place
    · obtain ⟨members, shown⟩ := first.passed place passed covered
      obtain ⟨others, shown'⟩ := second.passed place passed covered
      exact .inr ⟨members, others, shown, shown'⟩
    · exact .inl ((first.outside place passed covered).trans
        (second.outside place passed covered).symm)

/-- An object without members shows that nothing is kept. -/
theorem empty (document : Json) : Shows document ∅ (.object []) where
  found _ mem := absurd mem (Set.notMem_empty _)
  sorted place members shown := by
    cases place with
    | nil =>
      obtain rfl : [] = members := Json.object.inj (Option.some.inj shown)
      exact List.Pairwise.nil
    | cons name place => cases shown
  covered _ covered := by
    obtain ⟨path, mem, _⟩ := covered
    exact absurd mem (Set.notMem_empty path)
  passed place passed _ := by
    rcases passed with rfl | ⟨path, mem, _⟩
    · exact ⟨[], rfl⟩
    · exact absurd mem (Set.notMem_empty path)
  outside place notPassed _ := by
    cases place with
    | nil => exact absurd (.inl rfl) notPassed
    | cons name place => rfl

/-- **Putting the value of one more path.** Above the path only a place that is covered already has
to show the document again, and there the value is put where it is. -/
theorem put {value : Json} (shows : Shows document kept (.object members))
    (sorted : document.Sorted) (nonempty : path ≠ []) (found : document.at? path = some value) :
    Shows document (insert path kept) (.object (putAt path value members)) where
  found other mem := by
    rcases Set.mem_insert_iff.1 mem with rfl | mem
    · exact ⟨nonempty, value, found⟩
    · exact shows.found other mem
  sorted := shows.sorted.putAt (sorted.found found) nonempty
  covered place covered := by
    rcases Json.place_cases path place with ⟨rest, rfl⟩ | ⟨rest, below, rfl⟩ | ⟨notBelow, notAbove⟩
    · -- at the path and below stands the value, as in the document
      rw [Json.at?_putAt_below nonempty, Json.at?_append, found, Option.bind_some]
    · -- above the path everything was covered before, so the value is there already
      have notBelow : ¬ place ++ rest <+: place := fun h => by
        have := h.length_le
        have := List.length_pos_iff.2 below
        rw [List.length_append] at *
        omega
      have before : Covered kept place := (covered_insert_iff.1 covered).resolve_left notBelow
      obtain ⟨inner, there⟩ := Json.exists_object_above below found
      have shown : (Json.object members).at? place = some (.object inner) :=
        (shows.covered place before).trans there
      have behind : (Json.object inner).at? rest = some value := by
        rwa [Json.at?_append, there, Option.bind_some] at found
      have opened : Json.membersAt place (.object members) = inner := by
        rw [Json.membersAt, shown]
        rfl
      rw [Json.at?_putAt_above below, opened, Json.putAt_self (sorted.found there) behind, there]
    · -- apart from the path nothing has changed
      rw [Json.at?_putAt_apart notBelow notAbove]
      exact shows.covered place ((covered_insert_iff.1 covered).resolve_left notBelow)
  passed place passed notCovered := by
    rw [covered_insert_iff, not_or] at notCovered
    rcases Json.place_cases path place with ⟨rest, rfl⟩ | ⟨rest, below, rfl⟩ | ⟨_, notAbove⟩
    · -- what is below the path is covered now, and what is above it has become an object
      exact absurd (List.prefix_append path rest) notCovered.1
    · exact ⟨_, Json.at?_putAt_above below⟩
    · rw [Json.at?_putAt_apart notCovered.1 notAbove]
      exact shows.passed place ((passed_insert_iff.1 passed).resolve_left notAbove) notCovered.2
  outside place notPassed notCovered := by
    rw [covered_insert_iff, not_or] at notCovered
    rw [passed_insert_iff, not_or] at notPassed
    rw [Json.at?_putAt_apart notCovered.1 notPassed.1]
    exact shows.outside place notPassed.2 notCovered.2

end Shows

/-! ### The paths that a projection keeps -/

section Keeping

variable (document : Json)

/-- The path of the `id`, if the document has one. -/
def idPath : Set (List String) := {path | path = ["id"] ∧ ∃ value, document.at? path = some value}

/-- The paths of a list at which the document has a value. -/
def valued (paths : List (List String)) : Set (List String) :=
  {path | path ∈ paths ∧ valueAt (document.at? ·) path ≠ .null}

variable {document}

theorem valued_cons (path : List String) (rest : List (List String)) :
    valued document (path :: rest) = valued document [path] ∪ valued document rest := by
  ext other
  simp only [valued, Set.mem_union, Set.mem_ofPred_eq, List.mem_cons, List.not_mem_nil, or_false,
    or_and_right]

theorem valueAt_eq (path : List String) :
    valueAt (document.at? ·) path = (document.at? path).getD .null := rfl

theorem at?_of_valueAt_ne_null {path : List String}
    (value : valueAt (document.at? ·) path ≠ .null) :
    document.at? path = some (valueAt (document.at? ·) path) := by
  rw [valueAt_eq] at value ⊢
  cases found : document.at? path with
  | none =>
    rw [found] at value
    exact absurd rfl value
  | some there => rfl

/-- A projection starts with the `id`. -/
theorem shows_idMembers (sorted : document.Sorted) :
    Shows document (idPath document) (.object (idMembers (document.at? ·))) := by
  cases found : document.at? ["id"] with
  | none =>
    -- a document without an `id` shows nothing
    have nothing : idPath document = ∅ := by
      refine Set.eq_empty_of_forall_notMem fun path => ?_
      rintro ⟨rfl, value, there⟩
      rw [found] at there
      cases there
    rw [nothing, show idMembers (document.at? ·) = [] by simp only [idMembers, found]]
    exact Shows.empty document
  | some id =>
    -- a document with an `id` has put that path first
    have only : idPath document = insert ["id"] ∅ := by
      ext path
      rw [Set.mem_insert_iff, Set.mem_empty_iff_false, or_false]
      exact ⟨And.left, fun h => ⟨h, id, h ▸ found⟩⟩
    rw [only, show idMembers (document.at? ·) = [("id", id)] by simp only [idMembers, found]]
    exact (Shows.empty document).put sorted (List.cons_ne_nil _ _) found

/-- **One step**: the path is kept when the document has a value there. -/
theorem Shows.keep {kept : Set (List String)} {members : List (String × Json)} {path : List String}
    (shows : Shows document kept (.object members)) (sorted : document.Sorted)
    (nonempty : path ≠ []) :
    Shows document (kept ∪ valued document [path])
      (.object (keep (document.at? ·) members path)) := by
  by_cases null : valueAt (document.at? ·) path = .null
  · -- a null or missing value is left out, so no path is added
    have nothing : valued document [path] = ∅ := by
      refine Set.eq_empty_of_forall_notMem fun other => ?_
      rintro ⟨mem, value⟩
      exact value (List.mem_singleton.1 mem ▸ null)
    rw [Projection.keep, null, nothing, Set.union_empty]
    exact shows
  · -- any other value is put in its place
    have only : valued document [path] = {path} := by
      ext other
      exact ⟨fun h => List.mem_singleton.1 h.1, fun h => ⟨List.mem_singleton.2 h, h ▸ null⟩⟩
    have kept' : Projection.keep (document.at? ·) members path =
        putAt path (valueAt (document.at? ·) path) members := by
      unfold Projection.keep
      split
      · next h => exact absurd h null
      · rfl
    rw [kept', only, Set.union_singleton]
    exact shows.put sorted nonempty (at?_of_valueAt_ne_null null)

/-- **All steps**, by induction on the paths that are still to be put. -/
theorem Shows.foldl_keep {kept : Set (List String)} {members : List (String × Json)}
    {paths : List (List String)} (shows : Shows document kept (.object members))
    (sorted : document.Sorted) (nonempty : ∀ path ∈ paths, path ≠ []) :
    Shows document (kept ∪ valued document paths)
      (.object (paths.foldl (Projection.keep (document.at? ·)) members)) := by
  induction paths generalizing kept members with
  | nil =>
    have nothing : valued document [] = ∅ :=
      Set.eq_empty_of_forall_notMem fun _ mem => List.not_mem_nil mem.1
    rw [nothing, Set.union_empty]
    exact shows
  | cons path rest ih =>
    obtain ⟨first, others⟩ := List.forall_mem_cons.1 nonempty
    rw [valued_cons, ← Set.union_assoc]
    exact ih (shows.keep sorted first) others

/-- **A projection shows the `id` and the paths that have a value.** -/
theorem shows_ofPaths (sorted : document.Sorted) {paths : List (List String)}
    (nonempty : ∀ path ∈ paths, path ≠ []) :
    Shows document (idPath document ∪ valued document paths)
      (ofPaths (document.at? ·) paths) :=
  (shows_idMembers sorted).foldl_keep sorted nonempty

end Keeping

/-! ### The part of a document that is asked for -/

/-- **The projection of a document to some paths.** The data are an object with the `id` of the
document. At each path they have the value of the document, where a missing value counts as null.
All that is found in them apart from objects lies at or below the `id` or one of the paths, and the
document has the same there. An object may also lie on the way to one of these, and there is nothing
elsewhere. -/
structure IsProjection (document : Json) (paths : List (List String)) (data : Json) : Prop where
  object : ∃ members, data = .object members
  id : data.member? "id" = document.member? "id"
  requested : ∀ path ∈ paths, valueAt (data.at? ·) path = valueAt (document.at? ·) path
  within : ∀ place value, data.at? place = some value → (∀ members, value ≠ .object members) →
    (["id"] <+: place ∨ ∃ path ∈ paths, path <+: place) ∧ document.at? place = some value
  elsewhere : ∀ place, place ≠ [] →
    (∀ path, path = ["id"] ∨ path ∈ paths → ¬ path <+: place ∧ ¬ place <+: path) →
    data.at? place = none

variable {document data : Json} {paths : List (List String)}

/-- What is not covered is an object of the document, if some kept path leads through it, and
missing from the data otherwise. -/
theorem Shows.of_not_covered {kept : Set (List String)} (shows : Shows document kept data)
    {place : List String} (inside : place ≠ []) (notCovered : ¬ Covered kept place) :
    (∃ members, document.at? place = some (.object members)) ∨ data.at? place = none := by
  by_cases passed : Passed kept place
  · obtain ⟨path, mem, rest, rfl⟩ := passed.resolve_left inside
    obtain ⟨_, value, found⟩ := shows.found _ mem
    have below : rest ≠ [] := by
      rintro rfl
      exact notCovered (.of_mem (List.append_nil place ▸ mem))
    exact .inl (Json.exists_object_above below found)
  · exact .inr (shows.outside place passed notCovered)

/-- What shows the paths that a projection keeps is the projection. -/
theorem Shows.isProjection
    (shows : Shows document (idPath document ∪ valued document paths) data)
    (nonempty : ∀ path ∈ paths, path ≠ []) : IsProjection document paths data where
  object := by
    -- every path has a name, so the top is passed on the way and not kept as a whole
    have root : ¬ Covered (idPath document ∪ valued document paths) [] := by
      rintro ⟨path, mem, above⟩
      exact (shows.found path mem).1 (List.prefix_nil.1 above)
    obtain ⟨members, shown⟩ := shows.passed [] (.inl rfl) root
    exact ⟨members, Option.some.inj shown⟩
  id := by
    rw [← Json.at?_singleton, ← Json.at?_singleton]
    by_cases covered : Covered (idPath document ∪ valued document paths) ["id"]
    · exact shows.covered ["id"] covered
    · -- a document with an `id` keeps it
      have missing : document.at? ["id"] = none := by
        refine Option.eq_none_iff_forall_ne_some.2 fun value found => covered ?_
        exact .of_mem (.inl ⟨rfl, value, found⟩)
      rcases shows.of_not_covered (List.cons_ne_nil _ _) covered with ⟨members, found⟩ | none
      · rw [missing] at found
        cases found
      · rw [none, missing]
  requested path mem := by
    -- a path that is kept shows what the document has
    by_cases covered : Covered (idPath document ∪ valued document paths) path
    · rw [valueAt_eq, valueAt_eq, shows.covered path covered]
    · -- a path that is not kept has nothing to show in the document
      have null : valueAt (document.at? ·) path = .null := by
        by_contra value
        exact covered (.of_mem (.inr ⟨mem, value⟩))
      -- nor does it show anything here, where an object on the way counts as null
      rcases shows.of_not_covered (nonempty path mem) covered with ⟨members, found⟩ | none
      · rw [valueAt_eq, found] at null
        cases null
      · rw [null, valueAt_eq, none]
        rfl
  within place value shown noObject := by
    -- what is shown and no object is covered, for elsewhere there are objects on the way or nothing
    have covered : Covered (idPath document ∪ valued document paths) place := by
      by_contra notCovered
      by_cases passed : Passed (idPath document ∪ valued document paths) place
      · obtain ⟨members, shown'⟩ := shows.passed place passed notCovered
        exact noObject members (Option.some.inj (shown.symm.trans shown'))
      · rw [shows.outside place passed notCovered] at shown
        cases shown
    refine ⟨?_, (shows.covered place covered).symm.trans shown⟩
    obtain ⟨path, ⟨rfl, _⟩ | ⟨mem, _⟩, above⟩ := covered
    · exact .inl above
    · exact .inr ⟨path, mem, above⟩
  elsewhere place inside apart := by
    -- the paths that are kept are among those that are asked for
    have listed {path : List String} (mem : path ∈ idPath document ∪ valued document paths) :
        path = ["id"] ∨ path ∈ paths := mem.imp And.left And.left
    apply shows.outside place
    · rintro (root | ⟨path, mem, through⟩)
      · exact inside root
      · exact (apart path (listed mem)).2 through
    · rintro ⟨path, mem, above⟩
      exact (apart path (listed mem)).1 above

/-- The order of the paths and their repetitions do not count. -/
theorem ofPaths_eq_of_mem_iff (sorted : document.Sorted) (nonempty : ∀ path ∈ paths, path ≠ [])
    {others : List (List String)} (same : ∀ path, path ∈ others ↔ path ∈ paths) :
    ofPaths (document.at? ·) others = ofPaths (document.at? ·) paths := by
  have kept : valued document others = valued document paths := by
    ext path
    exact and_congr_left fun _ => same path
  have shows := shows_ofPaths sorted fun path mem => nonempty path ((same path).1 mem)
  exact (kept ▸ shows).unique (shows_ofPaths sorted nonempty)

end Projection

/-! ### The projections of records -/

/-- The path of a declared attribute has at least one name. -/
theorem Attribute.Declared.documentPath_ne_nil {registry : Registry} {a : Attribute}
    (declared : a.Declared registry) : a.documentPath ≠ [] := by
  cases declared with
  | plain leads => exact List.isEmpty_eq_false_iff.1 leads.isEmpty
  | joined _ _ _ => exact List.cons_ne_nil _ _

namespace MemoryStore

/-- **A record is shown with exactly the part of its document that is asked for**, in whatever order
and how often the attributes are listed, and whether or not some lie inside others. A document has
the members of every object in the order of their names, each once, which is what being sorted says
of it. -/
theorem shown_isProjection {registry : Registry} {attributes : List Attribute} {record : Record}
    (sorted : record.document.Sorted)
    (resolved : ∀ a ∈ attributes, ∃ entity text, registry.resolve entity text = .ok a) :
    Projection.IsProjection record.document (attributes.map Attribute.documentPath)
        (shown (some attributes) record).document ∧
      ∀ others : List Attribute, (∀ a, a ∈ others ↔ a ∈ attributes) →
        shown (some others) record = shown (some attributes) record := by
  have nonempty : ∀ path ∈ attributes.map Attribute.documentPath, path ≠ [] := by
    rw [List.forall_mem_map]
    intro a mem
    obtain ⟨entity, text, found⟩ := resolved a mem
    exact (Registry.declared_of_resolve found).documentPath_ne_nil
  refine ⟨(Projection.shows_ofPaths sorted nonempty).isProjection nonempty, fun others same => ?_⟩
  -- two lists with the same attributes ask for the same paths
  have together : Projection.ofPaths (record.document.at? ·) (others.map Attribute.documentPath) =
      Projection.ofPaths (record.document.at? ·) (attributes.map Attribute.documentPath) := by
    refine Projection.ofPaths_eq_of_mem_iff sorted nonempty fun path => ?_
    simp only [List.mem_map, same]
  rw [shown, shown, together]

/-- Persons with a badge for an id, who live at a place. -/
def badges : Registry :=
  let entities : List Entity :=
    [⟨"Badge", none, [⟨"no", .integer⟩]⟩,
     ⟨"Place", none, [⟨"city", .text⟩, ⟨"street", .text⟩]⟩,
     ⟨"Person", none, [⟨"id", .embedded "Badge"⟩, ⟨"home", .embedded "Place"⟩, ⟨"nick", .text⟩]⟩]
  entities.foldl (fun registry entity => (registry.registerInPlace entity).2) .empty

/-- A person with two cities, without a street, and with a member that is not declared. -/
def badgeHolder : Record :=
  ⟨"Person", "7", Json.canonical (.object
    [("nick", .null), ("id", .object [("no", .int 7), ("area", .text "B")]),
     ("home", .object [("street", .null), ("city", .array [.text "Ulm", .text "Bonn"])]),
     ("age", .int 40)])⟩

/-- A parent after its child and before another one, and a path through the `id`. -/
def badgeFields : List Attribute :=
  [⟨"Person", none, ["home", "city"], ⟨"city", .text⟩⟩,
   ⟨"Person", none, ["home"], ⟨"home", .embedded "Place"⟩⟩,
   ⟨"Person", none, ["home", "street"], ⟨"street", .text⟩⟩,
   ⟨"Person", none, ["id", "no"], ⟨"no", .integer⟩⟩,
   ⟨"Person", none, ["nick"], ⟨"nick", .text⟩⟩]

theorem shown_isProjection_badges :
    badgeHolder.document.Sorted ∧
      (∀ a ∈ badgeFields, ∃ entity text, badges.resolve entity text = .ok a) ∧
      Projection.IsProjection badgeHolder.document (badgeFields.map Attribute.documentPath)
        (shown (some badgeFields) badgeHolder).document ∧
      (shown (some badgeFields) badgeHolder).document =
        .object
          [("home", .object [("city", .array [.text "Ulm", .text "Bonn"]), ("street", .null)]),
           ("id", .object [("area", .text "B"), ("no", .int 7)])] ∧
      shown (some (badgeFields.reverse ++ badgeFields)) badgeHolder =
        shown (some badgeFields) badgeHolder := by
  have sorted : badgeHolder.document.Sorted := Json.sorted_canonical _
  have resolved : ∀ a ∈ badgeFields, ∃ entity text, badges.resolve entity text = .ok a := by
    simp only [badgeFields, List.forall_mem_cons]
    refine ⟨⟨"Person", "Person.home.city", ?_⟩, ⟨"Person", "Person.home", ?_⟩,
      ⟨"Person", " Person . home . street ", ?_⟩, ⟨"Person", "Person.id.no", ?_⟩,
      ⟨"Person", "nick", ?_⟩, List.forall_mem_nil _⟩
    all_goals cbv
  have spec := shown_isProjection sorted resolved
  refine ⟨sorted, resolved, spec.1, by cbv, spec.2 _ fun a => ?_⟩
  rw [List.mem_append, List.mem_reverse, or_self]

end MemoryStore

end EntitySearch
