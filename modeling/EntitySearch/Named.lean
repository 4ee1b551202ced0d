/-!
# Maps from names

A list of named entries in rising order of names, each name once. Putting an entry replaces the one
of the same name. The lists are used as they are for the members of JSON objects, and with the
proof of their order as `NameMap` for declarations that are looked up by name.
-/

namespace EntitySearch

namespace Named

variable {α : Type}

/-- The first entry with a name. -/
def get? (name : String) : List (String × α) → Option α
  | [] => none
  | (key, value) :: rest => if key = name then some value else get? name rest

/-- Puts an entry at its place; an entry of the same name is replaced. -/
def put (name : String) (value : α) : List (String × α) → List (String × α)
  | [] => [(name, value)]
  | (key, old) :: rest =>
    if name < key then (name, value) :: (key, old) :: rest
    else if key < name then (key, old) :: put name value rest
    else (name, value) :: rest

/-- Takes the entries of a name out. -/
def erase (name : String) (entries : List (String × α)) : List (String × α) :=
  entries.filter fun entry => entry.1 ≠ name

/-- Rising order of names. -/
abbrev Rising (entries : List (String × α)) : Prop := entries.Pairwise fun a b => a.1 < b.1

/-- The names after putting an entry. -/
theorem mem_put {name : String} {value : α} {entries : List (String × α)} {entry : String × α}
    (h : entry ∈ put name value entries) : entry = (name, value) ∨ entry ∈ entries := by
  induction entries with
  | nil => simpa [put] using h
  | cons head rest ih =>
    obtain ⟨key, old⟩ := head
    unfold put at h
    split at h
    · simpa using h
    · split at h
      · rcases List.mem_cons.1 h with rfl | h
        · simp
        · rcases ih h with h | h
          · exact .inl h
          · exact .inr (List.mem_cons_of_mem _ h)
      · rcases List.mem_cons.1 h with rfl | h
        · exact .inl rfl
        · exact .inr (List.mem_cons_of_mem _ h)

/-- Putting an entry keeps the order. -/
theorem rising_put {name : String} {value : α} {entries : List (String × α)}
    (h : Rising entries) : Rising (put name value entries) := by
  induction entries with
  | nil => simp [put, Rising]
  | cons head rest ih =>
    obtain ⟨key, old⟩ := head
    obtain ⟨above, rest'⟩ := List.pairwise_cons.1 h
    unfold put
    split
    · next lt =>
      refine List.pairwise_cons.2 ⟨fun entry he => ?_, h⟩
      rcases List.mem_cons.1 he with rfl | he
      · exact lt
      · exact String.lt_trans lt (above entry he)
    · split
      · next gt =>
        refine List.pairwise_cons.2 ⟨fun entry he => ?_, ih rest'⟩
        rcases mem_put he with rfl | he
        · exact gt
        · exact above entry he
      · next nlt ngt =>
        have same : key = name := String.le_antisymm (String.not_lt.1 nlt) (String.not_lt.1 ngt)
        subst same
        exact List.pairwise_cons.2 ⟨above, rest'⟩

/-- Taking entries out keeps the order. -/
theorem rising_erase {name : String} {entries : List (String × α)} (h : Rising entries) :
    Rising (erase name entries) :=
  h.sublist List.filter_sublist

/-! ### Looking up -/

@[simp] theorem get?_nil (name : String) : get? name ([] : List (String × α)) = none := rfl

theorem get?_cons (name : String) (entry : String × α) (rest : List (String × α)) :
    get? name (entry :: rest) = if entry.1 = name then some entry.2 else get? name rest := by
  obtain ⟨key, value⟩ := entry
  rfl

@[simp] theorem get?_cons_self (name : String) (value : α) (rest : List (String × α)) :
    get? name ((name, value) :: rest) = some value := by
  simp [get?_cons]

/-- A name that is found is still found when another entry stands in front. -/
theorem isSome_get?_cons {name : String} {entries : List (String × α)} (entry : String × α)
    (h : (get? name entries).isSome) : (get? name (entry :: entries)).isSome := by
  rw [get?_cons]
  split
  · rfl
  · exact h

/-- **A relation between every name and what is found under it.** -/
def Every (P : String → α → Prop) (entries : List (String × α)) : Prop :=
  ∀ name value, get? name entries = some value → P name value

theorem Every.nil {P : String → α → Prop} : Every P [] := by
  intro name value found
  cases found

theorem Every.cons {P : String → α → Prop} {name : String} {value : α}
    {entries : List (String × α)} (h : Every P entries) (first : P name value) :
    Every P ((name, value) :: entries) := by
  intro other found look
  rw [get?_cons] at look
  split at look
  · next same =>
    obtain rfl := Option.some.inj look
    exact same ▸ first
  · exact h other found look

/-- An entry that is found is in the list. -/
theorem mem_of_get? {name : String} {value : α} {entries : List (String × α)}
    (h : get? name entries = some value) : (name, value) ∈ entries := by
  induction entries with
  | nil => simp at h
  | cons head rest ih =>
    obtain ⟨key, old⟩ := head
    rw [get?_cons] at h
    split at h
    · next same =>
      obtain rfl := Option.some.inj h
      subst same
      exact List.mem_cons_self
    · exact List.mem_cons_of_mem _ (ih h)

/-- A name is found exactly when some entry has it. -/
theorem isSome_get?_iff {name : String} {entries : List (String × α)} :
    (get? name entries).isSome ↔ name ∈ entries.map Prod.fst := by
  induction entries with
  | nil => simp
  | cons head rest ih =>
    rw [get?_cons, List.map_cons, List.mem_cons]
    split
    · next same => simp [same]
    · next other => rw [ih]; simp [Ne.symm other]

theorem get?_eq_none_iff {name : String} {entries : List (String × α)} :
    get? name entries = none ↔ name ∉ entries.map Prod.fst := by
  rw [← isSome_get?_iff]
  simp

/-- In a list without repeated names every entry is found under its name. -/
theorem get?_of_mem {name : String} {value : α} {entries : List (String × α)}
    (h : Rising entries) (mem : (name, value) ∈ entries) : get? name entries = some value := by
  induction entries with
  | nil => simp at mem
  | cons head rest ih =>
    obtain ⟨above, rest'⟩ := List.pairwise_cons.1 h
    rw [get?_cons]
    rcases List.mem_cons.1 mem with rfl | mem
    · simp
    · rw [if_neg (String.ne_of_lt (above _ mem))]
      exact ih rest' mem

/-- Putting an entry is seen under its name only. -/
theorem get?_put (other name : String) (value : α) (entries : List (String × α)) :
    get? other (put name value entries) =
      if name = other then some value else get? other entries := by
  induction entries with
  | nil => simp [put, get?_cons]
  | cons head rest ih =>
    obtain ⟨key, old⟩ := head
    unfold put
    split
    · rw [get?_cons]
    · split
      · next gt =>
        rw [get?_cons, get?_cons, ih]
        by_cases same : key = other
        · rw [if_pos same, if_pos same, if_neg (fun eq => String.ne_of_lt gt (same.trans eq.symm))]
        · rw [if_neg same, if_neg same]
      · next nlt ngt =>
        have same : key = name := String.le_antisymm (String.not_lt.1 nlt) (String.not_lt.1 ngt)
        subst same
        rw [get?_cons, get?_cons]
        split <;> rfl

/-- Taking a name out is seen under that name only. -/
theorem get?_erase (other name : String) (entries : List (String × α)) :
    get? other (erase name entries) = if name = other then none else get? other entries := by
  induction entries with
  | nil => simp [erase]
  | cons head rest ih =>
    unfold erase at ih ⊢
    by_cases gone : head.1 = name
    · rw [List.filter_cons_of_neg (by simpa using gone), ih, get?_cons, gone]
      split <;> rfl
    · rw [List.filter_cons_of_pos (by simpa using gone), get?_cons, get?_cons, ih]
      by_cases same : name = other
      · rw [if_pos same, if_pos same, if_neg (fun eq => gone (eq.trans same.symm))]
      · rw [if_neg same, if_neg same]

/-- A function on all values is seen in what is found. -/
theorem get?_mapValues (f : α → α) (name : String) (entries : List (String × α)) :
    get? name (entries.map fun (key, value) => (key, f value)) = (get? name entries).map f := by
  induction entries with
  | nil => rfl
  | cons head rest ih =>
    obtain ⟨key, value⟩ := head
    rw [List.map_cons, get?_cons, get?_cons, ih]
    by_cases same : key = name
    · rw [if_pos same, if_pos same]; rfl
    · rw [if_neg same, if_neg same]

/-- A list of names to work through gets shorter with every name that is taken out. -/
theorem length_erase_lt {name : String} {names : List String} (mem : name ∈ names) :
    (names.erase name).length < names.length := by
  have := List.length_erase_of_mem mem
  have := List.length_pos_of_mem mem
  omega

end Named

/-- **A map from names**, in rising order of names. -/
structure NameMap (α : Type) where
  entries : List (String × α) := []
  rising : Named.Rising entries := by exact List.Pairwise.nil

namespace NameMap

variable {α : Type}

/-- The map without entries. -/
def empty : NameMap α := {}

/-- The entry of a name. -/
def get? (map : NameMap α) (name : String) : Option α := Named.get? name map.entries

/-- Whether the map has an entry of a name. -/
def contains (map : NameMap α) (name : String) : Bool := (map.get? name).isSome

/-- The names, in rising order. -/
def names (map : NameMap α) : List String := map.entries.map Prod.fst

/-- The values, in rising order of their names. -/
def values (map : NameMap α) : List α := map.entries.map Prod.snd

/-- The map with an entry added or replaced. -/
def insert (map : NameMap α) (name : String) (value : α) : NameMap α :=
  ⟨Named.put name value map.entries, Named.rising_put map.rising⟩

/-- The map without the entry of a name. -/
def erase (map : NameMap α) (name : String) : NameMap α :=
  ⟨Named.erase name map.entries, Named.rising_erase map.rising⟩

/-- The map with a function applied to every value. -/
def mapValues (f : α → α) (map : NameMap α) : NameMap α :=
  ⟨map.entries.map fun (name, value) => (name, f value), by
    simpa [Named.Rising, List.pairwise_map] using map.rising⟩

/-- The map with the entries of a list added, from the first to the last. -/
def insertAll (map : NameMap α) (entries : List (String × α)) : NameMap α :=
  entries.foldl (fun map (name, value) => map.insert name value) map

/-! ### Looking up -/

@[simp] theorem get?_insert (map : NameMap α) (other name : String) (value : α) :
    (map.insert name value).get? other = if name = other then some value else map.get? other :=
  Named.get?_put other name value map.entries

@[simp] theorem get?_erase (map : NameMap α) (other name : String) :
    (map.erase name).get? other = if name = other then none else map.get? other :=
  Named.get?_erase other name map.entries

@[simp] theorem get?_mapValues (f : α → α) (map : NameMap α) (name : String) :
    (map.mapValues f).get? name = (map.get? name).map f :=
  Named.get?_mapValues f name map.entries

/-- The map has an entry of a name exactly when the name is one of its names. -/
theorem contains_iff {map : NameMap α} {name : String} : map.contains name ↔ name ∈ map.names :=
  Named.isSome_get?_iff

theorem contains_of_get? {map : NameMap α} {name : String} {value : α}
    (h : map.get? name = some value) : map.contains name := by
  rw [contains, h]
  rfl

theorem get?_eq_none_iff {map : NameMap α} {name : String} :
    map.get? name = none ↔ ¬ map.contains name := by
  rw [contains, Option.not_isSome_iff_eq_none]

/-- The values are what is found under some name. -/
theorem mem_values_iff {map : NameMap α} {value : α} :
    value ∈ map.values ↔ ∃ name, map.get? name = some value := by
  constructor
  · intro mem
    obtain ⟨⟨name, found⟩, entry, rfl⟩ := List.mem_map.1 mem
    exact ⟨name, Named.get?_of_mem map.rising entry⟩
  · rintro ⟨name, found⟩
    exact List.mem_map.2 ⟨_, Named.mem_of_get? found, rfl⟩

/-- Each name is there once. -/
theorem nodup_names (map : NameMap α) : map.names.Nodup :=
  List.pairwise_map.2 (map.rising.imp String.ne_of_lt)

/-- A map without entries has no names. -/
theorem entries_eq_nil_iff {map : NameMap α} : map.entries = [] ↔ ∀ name, ¬ map.contains name := by
  simp only [contains_iff, names, ← List.eq_nil_iff_forall_not_mem, List.map_eq_nil_iff]

/-- **Adding the entries of another map**: what the other map has replaces what the map has. -/
@[simp] theorem get?_insertAll (map other : NameMap α) (name : String) :
    (map.insertAll other.entries).get? name = (other.get? name).or (map.get? name) := by
  obtain ⟨entries, rising⟩ := other
  change (map.insertAll entries).get? name = (Named.get? name entries).or (map.get? name)
  induction entries generalizing map with
  | nil => rfl
  | cons head rest ih =>
    obtain ⟨above, rising'⟩ := List.pairwise_cons.1 rising
    change ((map.insert head.1 head.2).insertAll rest).get? name = _
    rw [ih (map.insert head.1 head.2) rising', get?_insert, Named.get?_cons]
    by_cases same : head.1 = name
    · -- the name comes once, so nothing behind it replaces the entry
      have missing : Named.get? name rest = none := by
        refine Named.get?_eq_none_iff.2 fun mem => ?_
        obtain ⟨entry, inside, rfl⟩ := List.mem_map.1 mem
        exact String.ne_of_lt (above entry inside) same
      rw [if_pos same, if_pos same, missing]
      rfl
    · rw [if_neg same, if_neg same]

end NameMap

end EntitySearch
