import EntitySearch.Json.Basic
import Mathlib

/-!
# Documents and their places

A place in a document is a list of member names that leads from the document into the objects
inside it. A document is sorted when every object that a place leads to has its names in rising
order, as in a canonical document (`Json.sorted_canonical`).

A sorted document is known by what its places show: two of them are equal when at every place both
show the same or both show some object (`Json.Sorted.eq_of_alike`). The members of an object need
not be compared as lists. A member that one object has and the other lacks is seen one name further
on, where only one of them shows anything.
-/

namespace EntitySearch

namespace Named

variable {α : Type} {entries : List (String × α)}

/-- **Entries in rising order are known by what is found under every name.** -/
theorem eq_of_get? {others : List (String × α)} (rising : Rising entries)
    (rising' : Rising others) (same : ∀ name, get? name entries = get? name others) :
    entries = others := by
  have asymm : Std.Asymm fun a b : String × α => a.1 < b.1 := ⟨fun _ _ => String.lt_asymm⟩
  have irrefl : Std.Irrefl fun a b : String × α => a.1 < b.1 := ⟨fun a => String.lt_irrefl a.1⟩
  apply List.Pairwise.eq_of_mem_iff rising rising'
  refine fun (name, value) => ⟨fun mem => ?_, fun mem => ?_⟩
  · exact mem_of_get? ((same name).symm.trans (get?_of_mem rising mem))
  · exact mem_of_get? ((same name).trans (get?_of_mem rising' mem))

/-- Putting what is there already changes nothing. -/
theorem put_self {name : String} {value : α} (rising : Rising entries)
    (found : get? name entries = some value) : put name value entries = entries := by
  refine eq_of_get? (rising_put rising) rising fun other => ?_
  rw [get?_put]
  split
  · next same => rw [← same, found]
  · rfl

end Named

namespace Json

/-! ### Places -/

theorem at?_singleton (document : Json) (name : String) :
    document.at? [name] = document.member? name :=
  Option.bind_fun_some _

theorem at?_object (members : List (String × Json)) (name : String) (place : List String) :
    (object members).at? (name :: place) = (Named.get? name members).bind (at? place) := rfl

/-- A place that goes on behind another one is looked up from there. -/
theorem at?_append (document : Json) (place rest : List String) :
    document.at? (place ++ rest) = (document.at? place).bind (at? rest) := by
  induction place generalizing document with
  | nil => rfl
  | cons name place ih =>
    change (document.member? name).bind (at? (place ++ rest)) =
      ((document.member? name).bind (at? place)).bind (at? rest)
    rw [Option.bind_assoc]
    exact Option.bind_congr fun inner _ => ih inner

/-- What has something behind it is an object. -/
theorem exists_object_of_at? {document value : Json} {place : List String} (behind : place ≠ [])
    (found : document.at? place = some value) : ∃ members, document = object members := by
  obtain ⟨name, rest, rfl⟩ := List.exists_cons_of_ne_nil behind
  cases document with
  | object members => exact ⟨members, rfl⟩
  | _ => cases found

/-- On the way to something stands an object. -/
theorem exists_object_above {document value : Json} {place rest : List String} (below : rest ≠ [])
    (found : document.at? (place ++ rest) = some value) :
    ∃ members, document.at? place = some (object members) := by
  rw [at?_append] at found
  obtain ⟨inner, there, behind⟩ := Option.bind_eq_some_iff.1 found
  obtain ⟨members, rfl⟩ := exists_object_of_at? below behind
  exact ⟨members, there⟩

/-! ### Sorted documents -/

/-- **A sorted document**: the names of every object inside are in rising order. -/
def Sorted (document : Json) : Prop :=
  ∀ place members, document.at? place = some (object members) → Named.Rising members

theorem Sorted.rising {members : List (String × Json)} (sorted : (object members).Sorted) :
    Named.Rising members :=
  sorted [] members rfl

/-- What is found in a sorted document is sorted. -/
theorem Sorted.found {document value : Json} (sorted : document.Sorted) {place : List String}
    (found : document.at? place = some value) : value.Sorted := by
  intro rest members there
  apply sorted (place ++ rest) members
  rw [at?_append, found]
  exact there

theorem Sorted.member {members : List (String × Json)} (sorted : (object members).Sorted)
    {name : String} {value : Json} (found : Named.get? name members = some value) :
    value.Sorted :=
  sorted.found ((at?_singleton _ name).trans found)

/-- The members of a canonical object are in rising order, and each value is a canonical one. -/
theorem canonicalMembers_spec {members sorted : List (String × Json)}
    (rising : Named.Rising sorted)
    (canonicals : ∀ entry ∈ sorted, ∃ value, entry.2 = canonical value) :
    Named.Rising (canonicalMembers members sorted) ∧
      ∀ entry ∈ canonicalMembers members sorted, ∃ value, entry.2 = canonical value := by
  induction members generalizing sorted with
  | nil => exact ⟨rising, canonicals⟩
  | cons head rest ih =>
    obtain ⟨name, value⟩ := head
    unfold canonicalMembers
    refine ih (Named.rising_put rising) fun entry mem => ?_
    rcases Named.mem_put mem with rfl | mem
    · exact ⟨value, rfl⟩
    · exact canonicals entry mem

/-- **A canonical document is sorted.** -/
theorem sorted_canonical (document : Json) : document.canonical.Sorted := by
  intro place
  induction place generalizing document with
  | nil =>
    -- at the top the members are put in order
    intro members found
    cases document with
    | object original =>
      obtain rfl : canonicalMembers original [] = members := object.inj (Option.some.inj found)
      exact (canonicalMembers_spec List.Pairwise.nil (by simp)).1
    | _ => cases found
  | cons name place ih =>
    intro members found
    cases document with
    | object original =>
      obtain ⟨value, there, behind⟩ := Option.bind_eq_some_iff.1 found
      have mem : (name, value) ∈ canonicalMembers original [] := Named.mem_of_get? there
      -- below, the value of every member is canonical itself
      obtain ⟨inner, rfl⟩ := (canonicalMembers_spec List.Pairwise.nil (by simp)).2 _ mem
      exact ih inner members behind
    | _ => cases found

/-! ### Documents that show the same -/

/-- What two documents show at a place is alike: the same, or an object in both. -/
def Alike (a b : Option Json) : Prop :=
  a = b ∨ ∃ members others, a = some (object members) ∧ b = some (object others)

/-- A member is smaller than its object. -/
theorem sizeOf_lt_of_get? {members : List (String × Json)} {name : String} {value : Json}
    (found : Named.get? name members = some value) : sizeOf value < sizeOf (object members) := by
  have entry := List.sizeOf_lt_of_mem (Named.mem_of_get? found)
  rw [Prod.mk.sizeOf_spec] at entry
  rw [object.sizeOf_spec]
  omega

/-- **A sorted document is known by what its places show.** -/
theorem Sorted.eq_of_alike {a b : Json} (sorted : a.Sorted) (sorted' : b.Sorted)
    (alike : ∀ place, Alike (a.at? place) (b.at? place)) : a = b := by
  -- by induction on the size of the first document, as its members are smaller
  induction size : sizeOf a using Nat.strong_induction_on generalizing a b with
  | h size' ih =>
    subst size
    rcases alike [] with same | ⟨members, others, first, second⟩
    · exact Option.some.inj same
    · obtain rfl : a = object members := Option.some.inj first
      obtain rfl : b = object others := Option.some.inj second
      congr 1
      -- sorted members are known by what is found under each name
      refine Named.eq_of_get? sorted.rising sorted'.rising fun name => ?_
      have here := alike [name]
      rw [at?_singleton, at?_singleton, member?, member?] at here
      rcases here with same | ⟨inner, inner', found, found'⟩
      · exact same
      · -- both have an object there, and behind the name its places show the same again
        rw [found, found']
        congr 1
        refine ih _ (sizeOf_lt_of_get? found) (sorted.member found) (sorted'.member found')
          (fun place => ?_) rfl
        have behind := alike (name :: place)
        rwa [at?_object, at?_object, found, found'] at behind

end Json

end EntitySearch
