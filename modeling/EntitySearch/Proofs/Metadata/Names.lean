import EntitySearch.Metadata.Document
import EntitySearch.Proofs.Outcome
import EntitySearch.Proofs.Text.Words
import Mathlib

/-!
# Names of entity types and fields

Names of fields become parts of the paths at which a database reads a document, and a path is a
text in which a dot or a bracket would mean something else. So every name that is registered has to
be an identifier.

Registration checks the names of one entity type at a time, and `register_eq_ok_iff` says what it
accepts. What holds of a registry is `Registry.WellNamed`: every entity type is stored under its
own name, and all its names are identifiers. One registration keeps it (`WellNamed.register`),
whether it succeeds or not (`WellNamed.registerInPlace`), so the registry of a document has it
(`WellNamed.ofText`) and every registry that is ever reached (`Reached.wellNamed`).
-/

namespace EntitySearch

/-! ### Identifiers -/

/-- **An identifier**: ASCII letters, digits and low lines, and no digit in front. -/
structure IsIdentifier (name : String) : Prop where
  nonempty : name.toList ≠ []
  head : ∀ c, name.toList.head? = some c → c.isDigit = false
  chars : ∀ c ∈ name.toList, c.isAlphanum = true ∨ c = '_'

/-- **An entity type whose names are identifiers**, with no two fields of one name. -/
structure Entity.WellNamed (entity : Entity) : Prop where
  name : IsIdentifier entity.name
  superclass : ∀ parent, entity.superclass = some parent → IsIdentifier parent
  fields : ∀ field ∈ entity.fields, IsIdentifier field.name
  distinct : (entity.fields.map Field.name).Nodup

/-- **A registry of well-named entity types**, each of them under its own name. -/
structure Registry.WellNamed (registry : Registry) : Prop where
  own : ∀ name entity, registry.entity? name = some entity → entity.name = name
  named : ∀ name entity, registry.entity? name = some entity → entity.WellNamed

namespace Registry

theorem isNameChar_iff {c : Char} : isNameChar c = true ↔ c.isAlphanum = true ∨ c = '_' := by
  simp [isNameChar]

/-- A character of an identifier is not white space. -/
theorem not_isBlank_of_isNameChar {c : Char} (h : isNameChar c) : Text.isBlank c = false :=
  Text.isBlank_eq_false isNameChar (by decide +kernel) h

/-- Names keep to their characters when the case of letters is changed. -/
theorem isNameChar_toLower (c : Char) : isNameChar c.toLower = isNameChar c := by
  by_cases upper : c.isUpper = true
  · have letter : c.isAlpha = true := by rw [Char.isAlpha, upper, Bool.true_or]
    rw [isNameChar, isNameChar, Char.isAlphanum, Char.isAlphanum, Char.isAlpha_toLower_eq_isAlpha,
      letter]
    rfl
  · rw [Char.toLower_eq_of_not_isUpper upper]

end Registry

namespace IsIdentifier

variable {name : String}

/-- A character that no name may have is in no identifier. -/
theorem not_mem (identifier : IsIdentifier name) {c : Char}
    (other : Registry.isNameChar c = false) :
    c ∉ name.toList := by
  intro mem
  rw [Registry.isNameChar_iff.2 (identifier.chars c mem)] at other
  cases other

theorem noBlank (identifier : IsIdentifier name) : Text.NoBlank name.toList := fun c mem =>
  Registry.not_isBlank_of_isNameChar (Registry.isNameChar_iff.2 (identifier.chars c mem))

/-- A text that differs from an identifier in the case of letters only. -/
theorem isNameChar_of_equalsIgnoringCase (identifier : IsIdentifier name) {s : List Char}
    (same : Text.equalsIgnoringCase s name.toList = true) :
    ∀ c ∈ s, Registry.isNameChar c = true := by
  intro c mem
  have lowered : Text.lower s = Text.lower name.toList := beq_iff_eq.1 same
  have found : c.toLower ∈ Text.lower name.toList := lowered ▸ List.mem_map_of_mem mem
  obtain ⟨d, listed, alike⟩ := List.mem_map.1 found
  rw [← Registry.isNameChar_toLower, ← alike, Registry.isNameChar_toLower]
  exact Registry.isNameChar_iff.2 (identifier.chars d listed)

/-- An identifier has no white space around it. -/
theorem trimmed (identifier : IsIdentifier name) : Text.trimmed name = name := by
  rw [Text.trimmed, identifier.noBlank.trim, String.ofList_toList]

end IsIdentifier

namespace Registry

/-! ### What the checks accept -/

theorem checkName_eq_ok_iff {name : String} : checkName name = .ok () ↔ IsIdentifier name := by
  unfold checkName
  constructor
  · intro checked
    split at checked
    · cases checked
    · next c rest spelled =>
      split at checked
      · cases checked
      · next head =>
        split at checked
        · next named =>
          -- the checks that are passed are the clauses of being an identifier
          have first : name.toList.head? = some c := by rw [spelled, List.head?_cons]
          refine ⟨by simp [spelled], fun d found => ?_, fun d mem => ?_⟩
          · obtain rfl := Option.some.inj (first.symm.trans found)
            simpa using head
          · exact isNameChar_iff.1 (List.all_eq_true.1 named d (spelled ▸ mem))
        · cases checked
  · intro identifier
    split
    · next spelled => exact absurd spelled identifier.nonempty
    · next c rest spelled =>
      have head : c.isDigit = false := identifier.head c (by rw [spelled, List.head?_cons])
      have named : (c :: rest).all isNameChar = true := by
        refine List.all_eq_true.2 fun d mem => ?_
        exact isNameChar_iff.2 (identifier.chars d (spelled ▸ mem))
      simp [head, named]

theorem checkSuperclass_eq_ok_iff {superclass : Option String} :
    checkSuperclass superclass = .ok () ↔
      ∀ parent, superclass = some parent → IsIdentifier parent := by
  cases superclass with
  | none => simp [checkSuperclass]
  | some parent => simp [checkSuperclass, checkName_eq_ok_iff]

/-- The names of fields are checked against those in front of them, which `seen` lists. -/
theorem checkFields_eq_ok_iff {entity : String} {seen : List String} {fields : List Field} :
    checkFields entity seen fields = .ok () ↔
      (∀ field ∈ fields, IsIdentifier field.name) ∧ (fields.map Field.name).Nodup ∧
        ∀ field ∈ fields, field.name ∉ seen := by
  induction fields generalizing seen with
  | nil => simp [checkFields]
  | cons field rest ih =>
    rw [checkFields]
    cases checked : checkName field.name with
    | error error =>
      -- the name is no identifier, so neither side holds
      have wrong : ¬ IsIdentifier field.name := by
        rw [← checkName_eq_ok_iff, checked]
        intro accepted
        cases accepted
      simp [wrong]
    | ok =>
      have identifier : IsIdentifier field.name := checkName_eq_ok_iff.1 checked
      by_cases known : field.name ∈ seen
      · simp [known]
      · -- a name behind the field is new when it is neither its name nor one that was seen
        rw [if_neg (by simpa using known), ih, List.forall_mem_cons, List.forall_mem_cons,
          List.map_cons, List.nodup_cons]
        simp only [List.mem_cons, not_or, List.mem_map, not_exists, not_and]
        constructor
        · intro ⟨named, distinct, unseen⟩
          exact ⟨⟨identifier, named⟩, ⟨fun other mem => (unseen other mem).1, distinct⟩, known,
            fun other mem => (unseen other mem).2⟩
        · intro ⟨⟨_, named⟩, ⟨new, distinct⟩, _, unseen⟩
          exact ⟨named, distinct, fun other mem => ⟨new other mem, unseen other mem⟩⟩

/-- **What registration accepts**: an entity type with identifiers for names and no field twice,
under a name that is still free. -/
theorem register_eq_ok_iff {registry next : Registry} {entity : Entity} :
    registry.register entity = .ok next ↔
      entity.WellNamed ∧ registry.entity? entity.name = none ∧
        next = ⟨registry.entities.insert entity.name entity⟩ := by
  unfold register
  constructor
  · intro registered
    -- four checks are passed, one after another
    obtain ⟨_, name, registered⟩ := Outcome.bind_eq_ok_iff.1 registered
    obtain ⟨_, superclass, registered⟩ := Outcome.bind_eq_ok_iff.1 registered
    obtain ⟨_, fields, registered⟩ := Outcome.bind_eq_ok_iff.1 registered
    obtain ⟨fields, distinct, _⟩ := checkFields_eq_ok_iff.1 fields
    split at registered
    · cases registered
    · next free =>
      obtain rfl := Except.ok.inj registered
      exact ⟨⟨checkName_eq_ok_iff.1 name, checkSuperclass_eq_ok_iff.1 superclass, fields, distinct⟩,
        NameMap.get?_eq_none_iff.2 free, rfl⟩
  · intro ⟨named, free, made⟩
    have fields : checkFields entity.name [] entity.fields = .ok () :=
      checkFields_eq_ok_iff.2 ⟨named.fields, named.distinct, fun _ _ => List.not_mem_nil⟩
    rw [checkName_eq_ok_iff.2 named.name, checkSuperclass_eq_ok_iff.2 named.superclass, fields,
      made]
    exact if_neg (NameMap.get?_eq_none_iff.1 free)

/-! ### What registration keeps -/

theorem wellNamed_empty : empty.WellNamed where
  own := fun _ _ found => nomatch found
  named := fun _ _ found => nomatch found

namespace WellNamed

variable {registry next : Registry} {entity : Entity}

/-- A name under which an entity type is registered is an identifier. -/
theorem isIdentifier (wellNamed : registry.WellNamed) {name : String}
    (found : registry.entity? name = some entity) : IsIdentifier name :=
  wellNamed.own name entity found ▸ (wellNamed.named name entity found).name

/-- **One registration** keeps a registry well named. -/
theorem register (wellNamed : registry.WellNamed) (added : registry.register entity = .ok next) :
    next.WellNamed := by
  obtain ⟨named, _, rfl⟩ := register_eq_ok_iff.1 added
  -- what is found is the new entity type under its name, or what had been there
  have found (name : String) (other : Entity)
      (look : Registry.entity? ⟨registry.entities.insert entity.name entity⟩ name = some other) :
      (entity.name = name ∧ entity = other) ∨ registry.entity? name = some other := by
    rw [entity?, NameMap.get?_insert] at look
    split at look
    · next same => exact Or.inl ⟨same, Option.some.inj look⟩
    · exact Or.inr look
  constructor
  · intro name other look
    cases found name other look with
    | inl new => exact new.2 ▸ new.1
    | inr old => exact wellNamed.own name other old
  · intro name other look
    cases found name other look with
    | inl new => exact new.2 ▸ named
    | inr old => exact wellNamed.named name other old

theorem registerInPlace (wellNamed : registry.WellNamed) (entity : Entity) :
    (registry.registerInPlace entity).2.WellNamed := by
  unfold Registry.registerInPlace
  split
  · next added => exact wellNamed.register added
  · exact wellNamed

/-- The registry of a list of entity types, from any well-named one on. -/
theorem foldlM {entities : List Entity} (wellNamed : registry.WellNamed)
    (built : entities.foldlM Registry.register registry = .ok next) : next.WellNamed := by
  induction entities generalizing registry with
  | nil =>
    obtain rfl := Except.ok.inj built
    exact wellNamed
  | cons entity rest ih =>
    rw [List.foldlM_cons] at built
    obtain ⟨between, added, built⟩ := Outcome.bind_eq_ok_iff.1 built
    exact ih (wellNamed.register added) built

theorem ofEntities {entities : List Entity} (built : Registry.ofEntities entities = .ok registry) :
    registry.WellNamed :=
  wellNamed_empty.foldlM built

/-- **The registry of a document** is well named. -/
theorem ofText {text : String} (read : Registry.ofText text = .ok registry) :
    registry.WellNamed := by
  unfold Registry.ofText at read
  split at read
  · next document _ =>
    unfold Registry.ofJson at read
    split at read
    · exact ofEntities read
    · cases read
  · cases read

end WellNamed

/-- **The registries that are ever reached**: the empty one, those of documents, and what any
registration leaves behind, whether it succeeds or not. -/
inductive Reached : Registry → Prop
  | empty : Reached Registry.empty
  | document {text : String} {registry : Registry} (read : ofText text = .ok registry) :
      Reached registry
  | registered {registry : Registry} (reached : Reached registry) (entity : Entity) :
      Reached (registry.registerInPlace entity).2

/-- **Every registry that is reached is well named.** -/
theorem Reached.wellNamed {registry : Registry} (reached : Reached registry) :
    registry.WellNamed := by
  induction reached with
  | empty => exact wellNamed_empty
  | document read => exact WellNamed.ofText read
  | registered _ entity ih => exact ih.registerInPlace entity

end Registry

end EntitySearch
