import EntitySearch.Proofs.Metadata.Paths
import Mathlib

/-!
# Inherited fields

There are two ways to the fields of an entity type. One field is looked up by name, on the entity
type and at most two superclasses above it; all fields are listed along the whole chain of
superclasses. Nothing keeps the names of superclasses from being unknown, or from leading back to an
entity type that was there before, so the listing remembers the names it has met and stops at the
first it meets again. `Registry.Walks` is this loop, and `walks_iff` says that it comes to an end
from every name and what it has gone through by then.

The entity type some levels above another is `Registry.ancestor?`, which goes around a cycle as
often as it is asked to, and the *nearest* declaration of a name (`IsNearest`) is the one that no
lower level hides. That the loop stops early does not lose a declaration: on the way to the nearest
one, every name that was met before is further away from it than the name that comes next, so the
next name is new (`find?_chainFrom`). Both ways to the fields then find the nearest declarations,
the lookup those up to its depth (`findField?_eq_some_iff`) and the listing all of them, in their
order (`Precedes`). The two are put side by side in `allFields_nearest`.
-/

namespace EntitySearch

namespace Registry

/-- **The entity type some levels above**: the superclass of the superclass and so on, as long as
they are registered. -/
def ancestor? (registry : Registry) : Nat → String → Option Entity
  | 0, name => registry.entity? name
  | level + 1, name =>
    ((registry.entity? name).bind Entity.superclass).bind (registry.ancestor? level)

/-- **The loop along the superclasses**, from the names it has met and the name that comes next to
the entity types it still goes through. It stops above the last superclass, at a name that it has
met, and at a name that is not registered. -/
inductive Walks (registry : Registry) : List String → Option String → List Entity → Prop
  | top {met : List String} : Walks registry met none []
  | again {met : List String} {name : String} (known : name ∈ met) :
      Walks registry met (some name) []
  | unregistered {met : List String} {name : String} (new : name ∉ met)
      (missing : registry.entity? name = none) : Walks registry met (some name) []
  | next {met : List String} {name : String} {entity : Entity} {rest : List Entity}
      (new : name ∉ met) (found : registry.entity? name = some entity)
      (behind : Walks registry (name :: met) entity.superclass rest) :
      Walks registry met (some name) (entity :: rest)

/-- **The nearest declaration of a name**: the entity type some levels above declares the field, and
no entity type below that level declares one of the same name. -/
structure IsNearest (registry : Registry) (name : String) (level : Nat) (field : Field) : Prop where
  declared : ∃ entity, registry.ancestor? level name = some entity ∧
    entity.field? field.name = some field
  unhidden : ∀ below < level, ∀ entity, registry.ancestor? below name = some entity →
    entity.field? field.name = none

/-- **The order of a listing**: the field whose nearest declaration is on the lower level comes
first, and within one entity type the one that is declared first. -/
def Precedes (registry : Registry) (name : String) (f g : Field) : Prop :=
  ∀ i j, registry.IsNearest name i f → registry.IsNearest name j g →
    i < j ∨ i = j ∧ ∃ entity, registry.ancestor? i name = some entity ∧ [f, g].Sublist entity.fields

/-! ### Keeping the first field of each name -/

section FirstOfName

/-- Whether none of some fields has the name of a field. -/
def isNewTo (kept : List Field) (field : Field) : Bool := !kept.any (·.name = field.name)

theorem isNewTo_iff {kept : List Field} {field : Field} :
    isNewTo kept field = true ↔ ∀ other ∈ kept, other.name ≠ field.name := by
  simp [isNewTo]

/-- **What is added to the fields that are kept** is what would be kept without them, apart from the
fields whose names they have. -/
theorem foldl_firstOfName (kept fields : List Field) :
    fields.foldl
        (fun kept field => if kept.any (·.name = field.name) then kept else kept ++ [field]) kept =
      kept ++ (firstOfName fields).filter (isNewTo kept) := by
  induction fields generalizing kept with
  | nil => simp [firstOfName]
  | cons field rest ih =>
    -- the first field alone is what is kept of a list in front of the others
    have first : firstOfName (field :: rest) =
        field :: (firstOfName rest).filter (isNewTo [field]) := ih [field]
    rw [List.foldl_cons, first]
    by_cases known : kept.any (·.name = field.name) = true
    · have dropped : isNewTo kept field = false := by rw [isNewTo, known]; rfl
      rw [if_pos known, ih, List.filter_cons_of_neg (by simp [dropped]), List.filter_filter]
      congr 1
      apply List.filter_congr
      intro other _
      -- a field that is new to those kept cannot have the name of the first one
      by_cases new : isNewTo kept other = true
      · obtain ⟨same, mem, named⟩ : ∃ same ∈ kept, same.name = field.name := by simpa using known
        have distinct : isNewTo [field] other = true := by
          apply isNewTo_iff.2
          intro front mem'
          obtain rfl := List.mem_singleton.1 mem'
          exact named ▸ isNewTo_iff.1 new same mem
        rw [new, distinct, Bool.and_true]
      · rw [Bool.eq_false_of_not_eq_true new, Bool.false_and]
    · -- a new field is kept, and it is one more that later ones have to be new to
      have added : isNewTo kept field = true := by
        rw [isNewTo, Bool.eq_false_of_not_eq_true known]; rfl
      rw [if_neg known, ih, List.filter_cons_of_pos added, List.filter_filter,
        List.append_assoc, List.singleton_append]
      congr 2
      apply List.filter_congr
      intro other _
      simp [isNewTo, Bool.and_comm]

/-- The first field is kept, and of the others what does not have its name. -/
theorem firstOfName_cons (field : Field) (rest : List Field) :
    firstOfName (field :: rest) = field :: (firstOfName rest).filter (isNewTo [field]) :=
  foldl_firstOfName [field] rest

/-- What is kept is in its old order. -/
theorem firstOfName_sublist (fields : List Field) : (firstOfName fields).Sublist fields := by
  induction fields with
  | nil => exact List.Sublist.refl []
  | cons field rest ih =>
    rw [firstOfName_cons]
    exact (List.filter_sublist.trans ih).cons_cons field

/-- **No name is kept twice.** -/
theorem nodup_firstOfName (fields : List Field) : ((firstOfName fields).map Field.name).Nodup := by
  induction fields with
  | nil => exact List.nodup_nil
  | cons field rest ih =>
    rw [firstOfName_cons, List.map_cons, List.nodup_cons]
    constructor
    · intro mem
      obtain ⟨other, kept, named⟩ := List.mem_map.1 mem
      -- the later ones of the same name have been filtered out
      have new := isNewTo_iff.1 (List.mem_filter.1 kept).2 field List.mem_cons_self
      exact new named.symm
    · exact ih.sublist (List.filter_sublist.map Field.name)

/-- **A lookup by name** finds the same field as before. -/
theorem find?_firstOfName (name : String) (fields : List Field) :
    (firstOfName fields).find? (·.name = name) = fields.find? (·.name = name) := by
  induction fields with
  | nil => rfl
  | cons field rest ih =>
    rw [firstOfName_cons]
    by_cases named : field.name = name
    · rw [List.find?_cons_of_pos (by simpa using named),
        List.find?_cons_of_pos (by simpa using named)]
    · rw [List.find?_cons_of_neg (by simpa using named),
        List.find?_cons_of_neg (by simpa using named),
        List.find?_filter, ← ih]
      congr 1
      funext other
      -- a field of the name that is looked up is not one of the first field, which has another name
      by_cases same : other.name = name
      · simp [isNewTo, same, named]
      · simp [same]

/-- A field is kept when a lookup of its name finds it. -/
theorem mem_firstOfName_iff {field : Field} {fields : List Field} :
    field ∈ firstOfName fields ↔ fields.find? (·.name = field.name) = some field := by
  rw [← find?_firstOfName]
  constructor
  · intro kept
    obtain ⟨found, look⟩ : ∃ found,
        (firstOfName fields).find? (·.name = field.name) = some found := by
      apply Option.isSome_iff_exists.1
      exact List.find?_isSome.2 ⟨field, kept, by simp⟩
    -- both are kept and have one name, so they are one field
    have named : found.name = field.name := by simpa using List.find?_some look
    have same : found = field :=
      List.inj_on_of_nodup_map (nodup_firstOfName fields) (List.mem_of_find?_eq_some look) kept
        named
    exact same ▸ look
  · exact List.mem_of_find?_eq_some

/-- Fields behind others are kept when they are new to them. -/
theorem firstOfName_append (front behind : List Field) :
    firstOfName (front ++ behind) =
      firstOfName front ++ (firstOfName behind).filter (isNewTo (firstOfName front)) := by
  unfold firstOfName
  rw [List.foldl_append]
  exact foldl_firstOfName _ behind

end FirstOfName

variable {registry : Registry} {name : String}

/-! ### The loop -/

/-- **The loop along the superclasses** goes through the chain. The names that are still unmet are
the registered ones that it has not met. -/
theorem walks_chainFrom {unmet met : List String} (distinct : unmet.Nodup)
    (rest : ∀ name, name ∈ unmet ↔ registry.entities.contains name ∧ name ∉ met) (name : String) :
    registry.Walks met (some name) (registry.chainFrom unmet name) := by
  unfold chainFrom
  split
  · next mem =>
    have new : name ∉ met := ((rest name).1 mem).2
    split
    · next entity found =>
      refine Walks.next new found ?_
      -- one name less is unmet, which is the one that was met just now
      have distinct' : (unmet.erase name).Nodup := distinct.erase name
      have rest' : ∀ other, other ∈ unmet.erase name ↔
          registry.entities.contains other ∧ other ∉ name :: met := by
        intro other
        rw [distinct.mem_erase_iff, rest, List.mem_cons, not_or]
        exact and_left_comm
      split
      · next parent above =>
        rw [above]
        exact walks_chainFrom distinct' rest' parent
      · next above =>
        rw [above]
        exact Walks.top
    · -- a name without an entity type ends the walk
      next missing => exact Walks.unregistered new missing
  · next out =>
    -- a name that is not unmet was met before, or is not registered
    by_cases known : name ∈ met
    · exact Walks.again known
    · have missing : registry.entity? name = none := by
        apply NameMap.get?_eq_none_iff.2
        intro registered
        exact out ((rest name).2 ⟨registered, known⟩)
      exact Walks.unregistered known missing
  termination_by unmet.length
  decreasing_by exact Named.length_erase_lt (by assumption)

/-- The loop has no choice. -/
theorem Walks.unique {met : List String} {next : Option String} {entities others : List Entity}
    (walks : registry.Walks met next entities) (walks' : registry.Walks met next others) :
    entities = others := by
  induction walks generalizing others with
  | top =>
    cases walks'
    rfl
  | again known =>
    -- a name that was met ends both walks
    cases walks' with
    | next new _ _ => exact absurd known new
    | again _ | unregistered _ _ => rfl
  | unregistered _ missing =>
    cases walks' with
    | next _ found _ => exact absurd (found.symm.trans missing) (Option.some_ne_none _)
    | again _ | unregistered _ _ => rfl
  | next new found _ ih =>
    -- both walks go on with the same entity type
    cases walks' with
    | again known => exact absurd known new
    | unregistered _ missing => exact absurd (found.symm.trans missing) (Option.some_ne_none _)
    | next _ found' behind =>
      obtain rfl := Option.some.inj (found.symm.trans found')
      rw [ih behind]

/-- **The loop comes to an end** from every name, and it has gone through the chain then. -/
theorem walks_iff {entities : List Entity} :
    registry.Walks [] (some name) entities ↔ entities = registry.chain name := by
  -- a walk ends in one way, so it is enough that it ends along the chain
  have walks : registry.Walks [] (some name) (registry.chain name) := by
    refine walks_chainFrom (NameMap.nodup_names _) ?_ name
    intro other
    rw [← NameMap.contains_iff]
    simp
  constructor
  · intro other
    exact other.unique walks
  · rintro rfl
    exact walks

/-- The chain is no longer than the list of names it may go through. -/
theorem length_chainFrom_le (unmet : List String) (name : String) :
    (registry.chainFrom unmet name).length ≤ unmet.length := by
  unfold chainFrom
  split
  · next mem =>
    -- each name takes itself from the list
    have shorter := Named.length_erase_lt mem
    split
    · rw [List.length_cons]
      split
      · next parent _ =>
        have := length_chainFrom_le (unmet.erase name) parent
        omega
      · show 1 ≤ unmet.length
        omega
    · exact Nat.zero_le _
  · exact Nat.zero_le _
  termination_by unmet.length

/-! ### Nearest declarations -/

variable {field : Field}

/-- One level up is what the superclass has on the level below. -/
theorem ancestor?_succ {entity : Entity} (found : registry.entity? name = some entity)
    (level : Nat) :
    registry.ancestor? (level + 1) name = entity.superclass.bind (registry.ancestor? level) := by
  rw [ancestor?, found]
  rfl

/-- A declaration of the entity type itself is the nearest one. -/
theorem isNearest_zero_iff :
    registry.IsNearest name 0 field ↔
      ∃ entity, registry.entity? name = some entity ∧ entity.field? field.name = some field := by
  constructor
  · intro nearest
    exact nearest.declared
  · intro own
    exact ⟨own, fun below lower => absurd lower (Nat.not_lt_zero below)⟩

/-- **A declaration further up** is the nearest one when it is the nearest one of the superclass and
the entity type has none itself. -/
theorem isNearest_succ_iff {level : Nat} :
    registry.IsNearest name (level + 1) field ↔
      ∃ entity parent, registry.entity? name = some entity ∧ entity.superclass = some parent ∧
        entity.field? field.name = none ∧ registry.IsNearest parent level field := by
  constructor
  · rintro ⟨⟨last, above, declared⟩, unhidden⟩
    obtain ⟨parent, superclass, above⟩ := Option.bind_eq_some_iff.1 above
    obtain ⟨entity, found, superclass⟩ := Option.bind_eq_some_iff.1 superclass
    -- levels above the superclass count one less from there
    have lifted (below : Nat) :
        registry.ancestor? (below + 1) name = registry.ancestor? below parent := by
      rw [ancestor?_succ found, superclass]
      rfl
    refine ⟨entity, parent, found, superclass, unhidden 0 (Nat.succ_pos level) entity found,
      ⟨last, above, declared⟩, ?_⟩
    intro below lower other look
    exact unhidden (below + 1) (Nat.succ_lt_succ lower) other ((lifted below).trans look)
  · rintro ⟨entity, parent, found, superclass, new, ⟨last, above, declared⟩, unhidden⟩
    have lifted (below : Nat) :
        registry.ancestor? (below + 1) name = registry.ancestor? below parent := by
      rw [ancestor?_succ found, superclass]
      rfl
    refine ⟨⟨last, (lifted level).trans above, declared⟩, ?_⟩
    intro below lower other look
    -- the lowest level is the entity type itself, and all others are above its superclass
    cases below with
    | zero =>
      obtain rfl := Option.some.inj (found.symm.trans look)
      exact new
    | succ below =>
      exact unhidden below (Nat.lt_of_succ_lt_succ lower) other ((lifted below).symm.trans look)

/-- **A name has one nearest declaration.** -/
theorem IsNearest.unique {i j : Nat} {f g : Field} (first : registry.IsNearest name i f)
    (second : registry.IsNearest name j g) (named : f.name = g.name) : i = j ∧ f = g := by
  obtain ⟨entity, above, declared⟩ := first.declared
  obtain ⟨other, above', declared'⟩ := second.declared
  -- the one on the lower level would hide the other
  have level : i = j := by
    rcases Nat.lt_trichotomy i j with lower | same | lower
    · have hidden := second.unhidden i lower entity above
      rw [← named, declared] at hidden
      cases hidden
    · exact same
    · have hidden := first.unhidden j lower other above'
      rw [named, declared'] at hidden
      cases hidden
  subst level
  obtain rfl := Option.some.inj (above.symm.trans above')
  rw [← named, declared] at declared'
  exact ⟨rfl, Option.some.inj declared'⟩

/-- What an entity type does not declare itself, its superclass has one level lower. -/
theorem IsNearest.below {level : Nat} {entity : Entity}
    (nearest : registry.IsNearest name level field)
    (found : registry.entity? name = some entity) (new : entity.field? field.name = none) :
    ∃ lower parent, level = lower + 1 ∧ entity.superclass = some parent ∧
      registry.IsNearest parent lower field := by
  cases level with
  | zero =>
    obtain ⟨other, found', own⟩ := isNearest_zero_iff.1 nearest
    obtain rfl := Option.some.inj (found.symm.trans found')
    exact absurd (own.symm.trans new) (Option.some_ne_none _)
  | succ lower =>
    obtain ⟨other, parent, found', superclass, -, nearest⟩ := isNearest_succ_iff.1 nearest
    obtain rfl := Option.some.inj (found.symm.trans found')
    exact ⟨lower, parent, rfl, superclass, nearest⟩

/-! ### Looking one field up -/

theorem findFieldFrom?_zero (key : String) (entity : Entity) :
    registry.findFieldFrom? key 0 entity = entity.field? key := by
  unfold findFieldFrom?
  cases entity.field? key <;> rfl

theorem findFieldFrom?_succ (key : String) (levels : Nat) (entity : Entity) :
    registry.findFieldFrom? key (levels + 1) entity =
      (entity.field? key).or (entity.superclass.bind fun parent =>
        (registry.entity? parent).bind (registry.findFieldFrom? key levels)) := by
  rw [← Option.bind_assoc]
  conv => lhs; unfold findFieldFrom?
  cases entity.field? key with
  | some own => rfl
  | none =>
    show _ = (entity.superclass.bind registry.entity?).bind _
    cases entity.superclass.bind registry.entity? <;> rfl

/-- **What a lookup finds** are the nearest declarations up to its depth. -/
theorem findFieldFrom?_eq_some_iff {key : String} {levels : Nat} :
    (registry.entity? name).bind (registry.findFieldFrom? key levels) = some field ↔
      field.name = key ∧ ∃ level ≤ levels, registry.IsNearest name level field := by
  constructor
  · intro look
    have named : field.name = key := by
      obtain ⟨entity, found, look⟩ := Option.bind_eq_some_iff.1 look
      exact (name_of_findFieldFrom? found look).1
    subst named
    refine ⟨rfl, ?_⟩
    induction levels generalizing name with
    | zero =>
      obtain ⟨entity, found, look⟩ := Option.bind_eq_some_iff.1 look
      rw [findFieldFrom?_zero] at look
      exact ⟨0, Nat.le_refl 0, isNearest_zero_iff.2 ⟨entity, found, look⟩⟩
    | succ levels ih =>
      obtain ⟨entity, found, look⟩ := Option.bind_eq_some_iff.1 look
      rw [findFieldFrom?_succ] at look
      -- the entity type declares the field itself, or it is looked up from the superclass
      rcases Option.or_eq_some_iff.1 look with own | ⟨new, look⟩
      · exact ⟨0, Nat.zero_le _, isNearest_zero_iff.2 ⟨entity, found, own⟩⟩
      · obtain ⟨parent, superclass, look⟩ := Option.bind_eq_some_iff.1 look
        obtain ⟨level, reached, nearest⟩ := ih look
        exact ⟨level + 1, Nat.succ_le_succ reached,
          isNearest_succ_iff.2 ⟨entity, parent, found, superclass, new, nearest⟩⟩
  · -- the lookup goes up to the level of the declaration, and below it nothing is found
    rintro ⟨rfl, level, reached, nearest⟩
    induction levels generalizing name level with
    | zero =>
      obtain rfl := Nat.le_zero.1 reached
      obtain ⟨entity, found, own⟩ := isNearest_zero_iff.1 nearest
      rw [found, Option.bind_some, findFieldFrom?_zero, own]
    | succ levels ih =>
      cases level with
      | zero =>
        obtain ⟨entity, found, own⟩ := isNearest_zero_iff.1 nearest
        rw [found, Option.bind_some, findFieldFrom?_succ, own, Option.some_or]
      | succ level =>
        obtain ⟨entity, parent, found, superclass, new, nearest⟩ := isNearest_succ_iff.1 nearest
        rw [found, Option.bind_some, findFieldFrom?_succ, new, Option.none_or, superclass,
          Option.bind_some]
        exact ih level (Nat.le_of_succ_le_succ reached) nearest

theorem findField?_eq_some_iff {key : String} :
    registry.findField? name key = some field ↔
      field.name = key ∧ ∃ level ≤ lookupDepth, registry.IsNearest name level field :=
  findFieldFrom?_eq_some_iff

/-! ### Listing all fields -/

/-- A chain ends at once, or its first name is registered and still unmet. -/
theorem chainFrom_eq_nil_or (unmet : List String) (name : String) :
    registry.chainFrom unmet name = [] ∨
      name ∈ unmet ∧ ∃ entity, registry.entity? name = some entity := by
  unfold chainFrom
  split
  · next mem =>
    split
    · next entity found => exact Or.inr ⟨mem, entity, found⟩
    · exact Or.inl rfl
  · exact Or.inl rfl

/-- The fields along a chain: those of the entity type and behind them those of the chain of its
superclass, for which one name less is unmet. -/
theorem fields_chainFrom {unmet : List String} {entity : Entity} (mem : name ∈ unmet)
    (found : registry.entity? name = some entity) :
    (registry.chainFrom unmet name).flatMap Entity.fields =
      entity.fields ++ entity.superclass.elim []
        fun parent => (registry.chainFrom (unmet.erase name) parent).flatMap Entity.fields := by
  rw [chainFrom, dif_pos mem, found]
  show (entity :: _).flatMap Entity.fields = _
  rw [List.flatMap_cons]
  cases entity.superclass <;> rfl

/-- The first field of a name along a chain is the entity type's own, or the first along the chain
of its superclass. -/
theorem find?_fields_chainFrom {unmet : List String} {entity : Entity} (mem : name ∈ unmet)
    (found : registry.entity? name = some entity) (key : String) :
    ((registry.chainFrom unmet name).flatMap Entity.fields).find? (·.name = key) =
      (entity.field? key).or (entity.superclass.bind fun parent =>
        ((registry.chainFrom (unmet.erase name) parent).flatMap Entity.fields).find?
          (·.name = key)) := by
  rw [fields_chainFrom mem found, List.find?_append]
  show (entity.field? key).or _ = _
  cases entity.superclass <;> rfl

/-- A field that stands first of its name along a chain is a nearest declaration. -/
theorem exists_isNearest {unmet : List String} {name : String}
    (look : ((registry.chainFrom unmet name).flatMap Entity.fields).find? (·.name = field.name) =
      some field) : ∃ level, registry.IsNearest name level field := by
  rcases chainFrom_eq_nil_or unmet name with ended | ⟨mem, entity, found⟩
  · rw [ended] at look
    cases look
  · rw [find?_fields_chainFrom mem found] at look
    rcases Option.or_eq_some_iff.1 look with own | ⟨new, look⟩
    · exact ⟨0, isNearest_zero_iff.2 ⟨entity, found, own⟩⟩
    · obtain ⟨parent, superclass, look⟩ := Option.bind_eq_some_iff.1 look
      obtain ⟨level, nearest⟩ := exists_isNearest look
      exact ⟨level + 1, isNearest_succ_iff.2 ⟨entity, parent, found, superclass, new, nearest⟩⟩
  termination_by unmet.length
  decreasing_by exact Named.length_erase_lt mem

/-- **No declaration gets lost** where a chain ends. From every registered name that was met before,
the nearest declaration is further away than from the name that comes next, so this one is new. -/
theorem find?_chainFrom {unmet : List String} {level : Nat}
    (nearest : registry.IsNearest name level field)
    (further : ∀ met other, registry.entities.contains met → met ∉ unmet →
      registry.IsNearest met other field → level < other) :
    ((registry.chainFrom unmet name).flatMap Entity.fields).find? (·.name = field.name) =
      some field := by
  induction level generalizing name unmet with
  | zero =>
    obtain ⟨entity, found, own⟩ := isNearest_zero_iff.1 nearest
    have mem : name ∈ unmet := by
      by_contra out
      exact absurd (further name 0 (NameMap.contains_of_get? found) out nearest) (Nat.lt_irrefl 0)
    -- the entity type comes first, and it declares the field
    rw [find?_fields_chainFrom mem found, own, Option.some_or]
  | succ level ih =>
    obtain ⟨entity, parent, found, superclass, new, behind⟩ := isNearest_succ_iff.1 nearest
    -- the name itself is not further away than it is, so it was not met
    have mem : name ∈ unmet := by
      by_contra out
      exact absurd (further name _ (NameMap.contains_of_get? found) out nearest) (Nat.lt_irrefl _)
    rw [find?_fields_chainFrom mem found, new, Option.none_or, superclass]
    apply ih behind
    intro met other registered out nearest'
    by_cases same : met = name
    · -- the name that was met last is one level further away than its superclass
      subst same
      obtain ⟨rfl, -⟩ := nearest.unique nearest' rfl
      exact Nat.lt_succ_self level
    · have out' : met ∉ unmet := fun mem' => out ((List.mem_erase_of_ne same).2 mem')
      exact Nat.lt_of_succ_lt (further met other registered out' nearest')

/-- **All fields** are the nearest declarations. -/
theorem mem_allFields_iff :
    field ∈ registry.allFields name ↔ ∃ level, registry.IsNearest name level field := by
  unfold allFields chain
  rw [mem_firstOfName_iff]
  constructor
  · exact exists_isNearest
  · rintro ⟨level, nearest⟩
    apply find?_chainFrom nearest
    -- at the start every registered name is unmet
    intro met _ registered out
    exact absurd (NameMap.contains_iff.1 registered) out

/-- Fields that the entity type does not declare itself are in the order of its superclass. -/
theorem Precedes.inherited {entity : Entity} {parent : String} {f g : Field}
    (precedes : registry.Precedes parent f g) (found : registry.entity? name = some entity)
    (superclass : entity.superclass = some parent) (new : entity.field? f.name = none)
    (new' : entity.field? g.name = none) : registry.Precedes name f g := by
  intro i j nearest nearest'
  -- both are found one level further up
  obtain ⟨i, parent', rfl, superclass', nearest⟩ := nearest.below found new
  obtain rfl := Option.some.inj (superclass.symm.trans superclass')
  obtain ⟨j, parent', rfl, superclass', nearest'⟩ := nearest'.below found new'
  obtain rfl := Option.some.inj (superclass.symm.trans superclass')
  rcases precedes i j nearest nearest' with lower | ⟨rfl, last, above, inside⟩
  · exact Or.inl (Nat.succ_lt_succ lower)
  · refine Or.inr ⟨rfl, last, ?_, inside⟩
    rw [ancestor?_succ found, superclass]
    exact above

/-- What an entity type declares itself stands in front of what it does not. -/
theorem precedes_of_own {entity : Entity} {f g : Field}
    (found : registry.entity? name = some entity)
    (own : entity.field? f.name = some f) (new : entity.field? g.name = none) :
    registry.Precedes name f g := by
  intro i j nearest nearest'
  obtain ⟨rfl, -⟩ := nearest.unique (isNearest_zero_iff.2 ⟨entity, found, own⟩) rfl
  obtain ⟨lower, -, rfl, -⟩ := nearest'.below found new
  exact Or.inl (Nat.succ_pos lower)

/-- **Fields along a chain** are listed from the lowest level to the highest. -/
theorem pairwise_chainFrom (unmet : List String) (name : String) :
    (firstOfName ((registry.chainFrom unmet name).flatMap Entity.fields)).Pairwise
      (registry.Precedes name) := by
  rcases chainFrom_eq_nil_or unmet name with ended | ⟨mem, entity, found⟩
  · rw [ended]
    exact List.Pairwise.nil
  · rw [fields_chainFrom mem found, firstOfName_append]
    have own {f : Field} (kept : f ∈ firstOfName entity.fields) :
        entity.field? f.name = some f := mem_firstOfName_iff.1 kept
    -- a field that is new to those kept is none that the entity type declares
    have new {g : Field} (unlike : isNewTo (firstOfName entity.fields) g = true) :
        entity.field? g.name = none := by
      unfold Entity.field?
      rw [← find?_firstOfName]
      apply List.find?_eq_none.2
      intro other kept
      simpa using isNewTo_iff.1 unlike other kept
    refine List.pairwise_append.2 ⟨?_, ?_, ?_⟩
    · -- both are declared by the entity type, so their levels are the lowest
      apply List.pairwise_iff_forall_sublist.2
      intro f g inside i j nearest nearest'
      obtain ⟨kept, kept'⟩ : f ∈ firstOfName entity.fields ∧ g ∈ firstOfName entity.fields := by
        simpa using inside.subset
      obtain ⟨rfl, -⟩ := nearest.unique (isNearest_zero_iff.2 ⟨entity, found, own kept⟩) rfl
      obtain ⟨rfl, -⟩ := nearest'.unique (isNearest_zero_iff.2 ⟨entity, found, own kept'⟩) rfl
      exact Or.inr ⟨rfl, entity, found, inside.trans (firstOfName_sublist _)⟩
    · cases superclass : entity.superclass with
      | none => exact List.Pairwise.nil
      | some parent =>
        -- above, the order is that of the chain of the superclass
        have behind := pairwise_chainFrom (unmet.erase name) parent
        apply (behind.filter _).imp_of_mem
        intro f g kept kept' precedes
        exact precedes.inherited found superclass (new (List.mem_filter.1 kept).2)
          (new (List.mem_filter.1 kept').2)
    · intro f kept g kept'
      -- an own field is on the lowest level, and the others are new to it
      exact precedes_of_own found (own kept) (new (List.mem_filter.1 kept').2)
  termination_by unmet.length
  decreasing_by exact Named.length_erase_lt mem

/-- **Looking a field up and listing all fields agree**, whatever the superclasses are. The loop
behind the listing ends, with each name at most once and the nearest declarations in their order. A
field that is looked up is the one listed under its name, and a field that is listed is found when
the name is declared no further up than the lookup goes. -/
theorem allFields_nearest (registry : Registry) (name : String) :
    (∀ entities, registry.Walks [] (some name) entities ↔ entities = registry.chain name) ∧
      (registry.chain name).length ≤ registry.entities.names.length ∧
      ((registry.allFields name).map Field.name).Nodup ∧
      (∀ field, field ∈ registry.allFields name ↔ ∃ level, registry.IsNearest name level field) ∧
      (registry.allFields name).Pairwise (registry.Precedes name) ∧
      (∀ key field, registry.findField? name key = some field →
        (registry.allFields name).find? (·.name = key) = some field) ∧
      ∀ field ∈ registry.allFields name,
        (∃ level ≤ 2, ∃ entity, registry.ancestor? level name = some entity ∧
          field.name ∈ entity.fields.map Field.name) →
        registry.findField? name field.name = some field := by
  refine ⟨fun _ => walks_iff, length_chainFrom_le _ name, nodup_firstOfName _,
    fun _ => mem_allFields_iff, pairwise_chainFrom _ name, ?_, ?_⟩
  · intro key field look
    -- a field that is looked up is a nearest declaration, and these are the ones that are listed
    obtain ⟨rfl, level, -, nearest⟩ := findField?_eq_some_iff.1 look
    have listed : field ∈ registry.allFields name := mem_allFields_iff.2 ⟨level, nearest⟩
    calc (registry.allFields name).find? (·.name = field.name)
        = ((registry.chain name).flatMap Entity.fields).find? (·.name = field.name) :=
          find?_firstOfName _ _
      _ = some field := mem_firstOfName_iff.1 listed
  · rintro field listed ⟨level, reached, entity, above, declared⟩
    obtain ⟨nearestLevel, nearest⟩ := mem_allFields_iff.1 listed
    -- a nearest declaration is no higher than any other one
    have lower : nearestLevel ≤ level := by
      by_contra higher
      have hidden := nearest.unhidden level (Nat.lt_of_not_le higher) entity above
      obtain ⟨other, mem, named⟩ := List.mem_map.1 declared
      simpa [named] using List.find?_eq_none.1 hidden other mem
    exact findField?_eq_some_iff.2 ⟨rfl, nearestLevel, Nat.le_trans lower reached, nearest⟩

/-- Two entity types that are superclasses of each other have the same names, each of them with its
own declaration of the one that both declare. -/
example :
    (ofEntities [⟨"A", some "B", [⟨"x", .text⟩, ⟨"y", .text⟩]⟩,
        ⟨"B", some "A", [⟨"z", .text⟩, ⟨"y", .long⟩]⟩]).map
      (fun registry => (registry.allFields "A", registry.allFields "B")) =
    .ok ([⟨"x", .text⟩, ⟨"y", .text⟩, ⟨"z", .text⟩],
      [⟨"z", .text⟩, ⟨"y", .long⟩, ⟨"x", .text⟩]) := by
  cbv

end Registry

end EntitySearch
