import EntitySearch.Proofs.Metadata.Resolving
import EntitySearch.Proofs.Query.MarkedValues
import EntitySearch.Query.Validation

/-!
# Which queries bring warnings

Validation looks at the first name of each path by itself, and does not resolve the path. One would
expect that a query whose paths all resolve brings no warnings. The two ways of reading a path
differ in one respect: resolving takes the white space off the names between the dots and brackets,
and validation leaves it on. So `profile .age` resolves, and the field `profile ` is warned about.

This is the only difference. What resolves has an identifier for its first name, with white space
around it at most (`not_mem_of_trim`), and the field of validation is this name with the same white
space (`Spells.isSome_findField?_firstField`). Every other part of the reading agrees: the name of
the entity type that is passed over, and the brackets of a relation. The warnings for a query whose
paths resolve are those for the paths with white space there (`Reached.validate_of_resolves`).
-/

namespace EntitySearch

namespace Query

/-! ### The path of a condition -/

section Paths

variable {s : List Char} {condition : Condition}

/-- In front of a keyword the path is all that may stand in an attribute. -/
theorem path_of_keywordCondition? (read : keywordCondition? s = .ok (some condition)) :
    condition.path = String.ofList (s.takeWhile isAttributeChar) := by
  rw [keywordCondition?] at read
  split at read
  · cases read
  · split at read
    · obtain rfl := Option.some.inj (Except.ok.inj read)
      rfl
    · split at read
      · cases read
      · split at read
        · cases read
        · split at read
          · obtain rfl := Option.some.inj (Except.ok.inj read)
            rfl
          · cases read

/-- **There is no white space around the path** of a condition that is read. -/
theorem trim_path (read : readCondition s = .ok condition) :
    Text.trim condition.path.toList = condition.path.toList := by
  rw [readCondition] at read
  split at read
  · cases read
  · next found =>
    obtain rfl := Except.ok.inj read
    rw [path_of_keywordCondition? found, String.toList_ofList]
    exact (noBlank_of_attribute fun c mem => List.mem_takeWhile_imp mem).trim
  · rw [symbolCondition] at read
    split at read
    · cases read
    · split at read
      · obtain rfl := Except.ok.inj read
        rw [String.toList_ofList, Text.trim_trim]
      · cases read

end Paths

/-! ### Brackets -/

theorem dropWhile_of_not_mem {c : Char} {s : List Char} (other : c ∉ s) :
    s.dropWhile (· = c) = s := by
  cases s with
  | nil => rfl
  | cons d s =>
    refine List.dropWhile_cons_of_neg fun same => other ?_
    exact of_decide_eq_true same ▸ List.mem_cons_self

theorem withoutBrackets_of_not_mem {s : List Char} (opening : '[' ∉ s) (closing : ']' ∉ s) :
    withoutBrackets s = s := by
  rw [withoutBrackets, dropWhile_of_not_mem opening,
    dropWhile_of_not_mem (mt List.mem_reverse.1 closing), List.reverse_reverse]

/-- **The brackets of a relation** are taken off. -/
theorem withoutBrackets_relation {s : List Char} (opening : '[' ∉ s) (closing : ']' ∉ s) :
    withoutBrackets ('[' :: (s ++ [']'])) = s := by
  have front : ('[' :: (s ++ [']'])).dropWhile (· = '[') = s ++ [']'] := by
    change (s ++ [']']).dropWhile (· = '[') = s ++ [']']
    exact dropWhile_of_not_mem (by simp [opening])
  rw [withoutBrackets, front, List.reverse_append, List.reverse_singleton]
  change (s.reverse.dropWhile (· = ']')).reverse = s
  rw [dropWhile_of_not_mem (mt List.mem_reverse.1 closing), List.reverse_reverse]

/-! ### The piece in which the field stands -/

section Pieces

variable {path entity : String} {first second : List Char} {behind : List (List Char)}

theorem firstField_of_single (pieces : Text.splitAt '.' path.toList = [first]) :
    firstField path entity = String.ofList (withoutBrackets first) := by
  rw [firstField, pieces]

theorem firstField_of_owner (pieces : Text.splitAt '.' path.toList = first :: second :: behind)
    (owner : Text.equalsIgnoringCase first entity.toList = true) :
    firstField path entity = String.ofList (withoutBrackets second) := by
  rw [firstField, pieces]
  simp only [owner, ↓reduceIte]

theorem firstField_of_other (pieces : Text.splitAt '.' path.toList = first :: second :: behind)
    (other : ¬ Text.equalsIgnoringCase first entity.toList = true) :
    firstField path entity = String.ofList (withoutBrackets first) := by
  rw [firstField, pieces]
  simp only [other, Bool.false_eq_true, ↓reduceIte]

/-- A path without white space has none in its field. -/
theorem noBlank_firstField (plain : Text.NoBlank path.toList) (entity : String) :
    Text.NoBlank (firstField path entity).toList := by
  -- the field is what is between the brackets of some piece
  have piece {s : List Char} (listed : s ∈ Text.splitAt '.' path.toList)
      (chosen : firstField path entity = String.ofList (withoutBrackets s)) :
      Text.NoBlank (firstField path entity).toList := by
    intro c mem
    rw [chosen, String.toList_ofList, withoutBrackets, List.mem_reverse] at mem
    have front := (List.dropWhile_sublist _).subset (List.mem_reverse.1
      ((List.dropWhile_sublist _).subset mem))
    exact plain c (Text.mem_of_mem_splitAt listed front)
  rcases pieces : Text.splitAt '.' path.toList with _ | ⟨first, _ | ⟨second, behind⟩⟩
  · exact absurd pieces (Text.splitAt_ne_nil _ _)
  · exact piece (by simp [pieces]) (firstField_of_single pieces)
  · by_cases owner : Text.equalsIgnoringCase first entity.toList = true
    · exact piece (by simp [pieces]) (firstField_of_owner pieces owner)
    · exact piece (by simp [pieces]) (firstField_of_other pieces owner)

end Pieces

end Query

namespace Registry

open Query

/-! ### The first name of a path -/

section FirstField

variable {registry : Registry} {entity : String} {s : List Char}

/-- Around names there is nothing but white space when trimming leaves only them. -/
theorem not_mem_of_trim {c : Char} (letters : ∀ d ∈ Text.trim s, isNameChar d = true)
    (other : isNameChar c = false) (plain : Text.isBlank c = false) : c ∉ s := by
  intro mem
  rw [letters c (Text.mem_trim_of_not_isBlank mem plain)] at other
  cases other

/-- Names have no brackets around them. -/
theorem withoutBrackets_of_trim (letters : ∀ d ∈ Text.trim s, isNameChar d = true) :
    withoutBrackets s = s :=
  withoutBrackets_of_not_mem (not_mem_of_trim letters rfl rfl) (not_mem_of_trim letters rfl rfl)

theorem Leads.first {name : String} {rest : List String} {last : Field}
    (leads : registry.Leads entity (name :: rest) last) :
    ∃ field, registry.findField? entity name = some field := by
  cases leads with
  | last found => exact ⟨_, found⟩
  | inner found _ _ => exact ⟨_, found⟩

variable (wellNamed : registry.WellNamed)

include wellNamed

/-- A name under which a field is found has the characters of an identifier. -/
theorem WellNamed.isNameChar_of_findField? {field : Field}
    (found : registry.findField? entity (String.ofList (Text.trim s)) = some field) :
    ∀ c ∈ Text.trim s, isNameChar c = true := by
  intro c mem
  have identifier := wellNamed.isIdentifier_of_declares (name_of_findField? found).2
  exact isNameChar_iff.2 (identifier.chars c (by rwa [String.toList_ofList]))

/-- **A field that is found by its trimmed name** is found as it stands if it has no white space. -/
theorem WellNamed.findField?_of_trim {field : Field}
    (found : registry.findField? entity (String.ofList (Text.trim s)) = some field)
    (plain : Text.NoBlank (withoutBrackets s)) :
    registry.findField? entity (String.ofList (withoutBrackets s)) = some field := by
  have letters := wellNamed.isNameChar_of_findField? found
  rw [withoutBrackets_of_trim letters] at plain ⊢
  rwa [plain.trim] at found

variable {start : Entity} {path : String}

/-- **The field of validation** in a path without a relation is declared, if there is no white space
in it. -/
theorem WellNamed.isSome_firstField_plain {names : List String} {last : Field}
    (named : IsIdentifier start.name) (read : segments path.toList = .ok names)
    (leads : registry.Leads start.name (withoutOwner start names) last)
    (plain : Text.NoBlank (firstField path start.name).toList) :
    (registry.findField? start.name (firstField path start.name)).isSome := by
  -- the first name that is followed is the field of validation without the white space around it
  have piece {s : List Char} {behind : List String}
      (chosen : firstField path start.name = String.ofList (withoutBrackets s))
      (leads : registry.Leads start.name (String.ofList (Text.trim s) :: behind) last) :
      (registry.findField? start.name (firstField path start.name)).isSome := by
    obtain ⟨field, found⟩ := leads.first
    rw [chosen, String.toList_ofList] at plain
    rw [chosen, wellNamed.findField?_of_trim found plain]
    rfl
  obtain ⟨_, rfl⟩ := segments_eq_ok_iff.1 read
  -- one name, a name behind that of the owner, or a name behind another one
  rcases pieces : Text.splitAt '.' path.toList with _ | ⟨first, _ | ⟨second, behind⟩⟩
  · exact absurd pieces (Text.splitAt_ne_nil _ _)
  · rw [pieces] at leads
    exact piece (firstField_of_single pieces) leads
  · simp only [pieces, List.map_cons] at leads
    by_cases owner : Text.equalsIgnoringCase first start.name.toList = true
    · have tight : Text.NoBlank first := fun c mem =>
        not_isBlank_of_isNameChar (named.isNameChar_of_equalsIgnoringCase owner c mem)
      have passed : Text.sameIgnoringCase (String.ofList (Text.trim first)) start.name = true := by
        rwa [tight.trim, Text.sameIgnoringCase, String.toList_ofList]
      rw [withoutOwner_of_owner passed] at leads
      exact piece (firstField_of_owner pieces owner) leads
    · have chosen := firstField_of_other pieces owner
      have kept : ¬ Text.sameIgnoringCase (String.ofList (Text.trim first)) start.name = true := by
        -- with white space around it the name of the owner would be the field of validation
        intro padded
        rw [Text.sameIgnoringCase, String.toList_ofList] at padded
        have letters := named.isNameChar_of_equalsIgnoringCase padded
        rw [chosen, String.toList_ofList, withoutBrackets_of_trim letters] at plain
        rw [plain.trim] at padded
        exact owner padded
      rw [withoutOwner, if_neg kept] at leads
      exact piece chosen leads

/-- **The field of validation** behind a bracket is the relation, which is declared, if there is no
white space in it. -/
theorem WellNamed.isSome_firstField_joined {s rest : List Char} {relation : String} {field : Field}
    (named : IsIdentifier start.name) (text : path.toList = '[' :: s)
    (split : relationAndRest s = .ok (relation, rest))
    (found : registry.findField? start.name relation = some field)
    (plain : Text.NoBlank (firstField path start.name).toList) :
    (registry.findField? start.name (firstField path start.name)).isSome := by
  obtain ⟨front, closing, rfl, rfl, _, _⟩ := relationAndRest_eq_ok_iff.1 split
  have letters := wellNamed.isNameChar_of_findField? found
  -- the relation is a name, so neither dot nor bracket is in front of the closing one
  have dotless : '.' ∉ front := not_mem_of_trim letters rfl rfl
  have opening : '[' ∉ front := not_mem_of_trim letters rfl rfl
  obtain ⟨second, behind, more⟩ := List.exists_cons_of_ne_nil (Text.splitAt_ne_nil '.' rest)
  have pieces : Text.splitAt '.' path.toList = ('[' :: (front ++ [']'])) :: second :: behind := by
    rw [text, ← more, ← Text.splitAt_append (by simp [dotless])]
    simp
  have other : ¬ Text.equalsIgnoringCase ('[' :: (front ++ [']'])) start.name.toList = true :=
    fun owner => absurd (named.isNameChar_of_equalsIgnoringCase owner '[' List.mem_cons_self)
      (by decide)
  have chosen := firstField_of_other pieces other
  rw [withoutBrackets_relation opening closing] at chosen
  rw [chosen, String.toList_ofList] at plain
  rw [plain.trim] at found
  rw [chosen, found]
  rfl

/-- **Where a path resolves, the field of validation is declared** exactly if there is no white
space in it. -/
theorem Spells.isSome_findField?_firstField {a : Attribute} (named : IsIdentifier start.name)
    (spelled : registry.Spells start path.toList a) :
    (registry.findField? start.name (firstField path start.name)).isSome ↔
      Text.NoBlank (firstField path start.name).toList := by
  constructor
  · -- what is declared is a name, and names have no white space
    intro declared
    obtain ⟨field, found⟩ := Option.isSome_iff_exists.1 declared
    exact (wellNamed.isIdentifier_of_declares (name_of_findField? found).2).noBlank
  · intro plain
    generalize text : path.toList = s at spelled
    cases spelled with
    | plain _ read leads => exact wellNamed.isSome_firstField_plain named (text ▸ read) leads plain
    | joined split across _ _ =>
      obtain ⟨_, field, found, _⟩ := joinOf_eq_ok across
      exact wellNamed.isSome_firstField_joined named text split found plain

end FirstField

/-! ### Warnings -/

section Warnings

variable {registry : Registry} {strict : Bool} {query entity : String} {expression : Expression}

theorem noBlank_iff {s : List Char} : Text.NoBlank s ↔ ¬ s.any Text.isBlank = true := by
  simp [Text.NoBlank]

/-- **The warnings of conditions that resolve** are about the fields with white space in them. -/
theorem Reached.warnings_of_resolves (reached : Reached registry)
    (registered : (registry.entity? entity).isSome)
    (resolves : ∀ condition ∈ expression.conditions,
      Text.trim condition.path.toList = condition.path.toList ∧
        ∃ a, registry.resolve entity condition.path = .ok a) :
    warnings registry entity expression =
      (expression.conditions.filter fun condition =>
        (firstField condition.path entity).toList.any Text.isBlank).map fun condition =>
          .unknownField (firstField condition.path entity) entity := by
  have wellNamed := reached.wellNamed
  rw [warnings, if_neg (by simp [Option.isNone_iff_eq_none, Option.isSome_iff_ne_none.1 registered]),
    ← List.filterMap_eq_map, List.filterMap_filter]
  refine List.filterMap_congr fun condition mem => ?_
  obtain ⟨tight, a, resolved⟩ := resolves condition mem
  obtain ⟨start, found, spelled⟩ := resolve_eq_ok_iff.1 resolved
  obtain rfl := wellNamed.own entity start found
  rw [tight] at spelled
  -- a condition is warned of exactly where the field of validation is not declared
  have declared := spelled.isSome_findField?_firstField wellNamed (wellNamed.isIdentifier found)
  rw [noBlank_iff] at declared
  rw [warning?]
  by_cases blank : (firstField condition.path start.name).toList.any Text.isBlank = true
  · have unknown := Option.not_isSome_iff_eq_none.1 (mt declared.1 (not_not_intro blank))
    simp [unknown, blank]
  · have known := declared.2 blank
    simp [Option.isSome_iff_ne_none.1 known, blank]

/-- **The warnings for a query whose paths resolve**: its fields with white space in them are taken
for unknown, and no other field is. So there are none for paths without white space. -/
theorem Reached.validate_of_resolves (reached : Reached registry)
    (registered : (registry.entity? entity).isSome)
    (reads : Query.read strict query = .ok expression)
    (resolves : ∀ condition ∈ expression.conditions, ∃ a,
      registry.resolve entity condition.path = .ok a) :
    (validate registry strict query entity).isValid ∧
      (validate registry strict query entity).warnings =
        ((expression.conditions.filter fun condition =>
          (firstField condition.path entity).toList.any Text.isBlank).map fun condition =>
            .unknownField (firstField condition.path entity) entity) ∧
      ((validate registry strict query entity).warnings = [] ↔
        ∀ condition ∈ expression.conditions,
          Text.NoBlank (firstField condition.path entity).toList) ∧
      ((∀ condition ∈ expression.conditions, Text.NoBlank condition.path.toList) →
        (validate registry strict query entity).warnings = []) := by
  have there := (read_eq_ok_iff.1 reads).1
  have valid : validate registry strict query entity =
      ⟨none, warnings registry entity expression⟩ := by
    rw [validate, there, if_neg Bool.false_ne_true, reads]
  -- the paths of conditions that are read are trimmed already
  have spaced := reached.warnings_of_resolves registered fun condition mem => by
    obtain ⟨level, _, _, found⟩ := exists_level reads mem
    exact ⟨trim_path found, resolves condition mem⟩
  have quiet : warnings registry entity expression = [] ↔
      ∀ condition ∈ expression.conditions,
        Text.NoBlank (firstField condition.path entity).toList := by
    simp only [spaced, List.map_eq_nil_iff, List.filter_eq_nil_iff, noBlank_iff]
  rw [valid]
  exact ⟨rfl, spaced, quiet, fun plain => quiet.2 fun condition mem =>
    noBlank_firstField (plain condition mem) entity⟩

/-- Tasks with an embedded profile. -/
def profiledTasks : Registry :=
  let entities : List Entity :=
    [⟨"Profile", none, [⟨"age", .integer⟩]⟩, ⟨"Task", none, [⟨"profile", .embedded "Profile"⟩]⟩]
  entities.foldl (fun registry entity => (registry.registerInPlace entity).2) empty

theorem profiledTasks_reached : Reached profiledTasks := (Reached.empty.registered _).registered _

/-- A path that resolves, with white space behind its first name. -/
theorem Reached.validate_of_resolves_profile :
    Query.read true "profile .age = '3'" = .ok (.condition ⟨"profile .age", .equals, .text "3"⟩) ∧
      profiledTasks.resolve "Task" "profile .age" =
        .ok ⟨"Task", none, ["profile", "age"], ⟨"age", .integer⟩⟩ ∧
      (validate profiledTasks true "profile .age = '3'" "Task").warnings =
        [.unknownField "profile " "Task"] := by
  have reads : Query.read true "profile .age = '3'" =
      .ok (.condition ⟨"profile .age", .equals, .text "3"⟩) :=
    read_of_whole (by rfl) (by cbv) (by cbv) (by cbv) (by cbv)
  have resolved : profiledTasks.resolve "Task" "profile .age" =
      .ok ⟨"Task", none, ["profile", "age"], ⟨"age", .integer⟩⟩ := by
    have tight : Text.trim "profile .age".toList = "profile .age".toList := by cbv
    have names : segments "profile .age".toList = .ok ["profile", "age"] := by cbv
    have leads : profiledTasks.Leads "Task" ["profile", "age"] ⟨"age", .integer⟩ :=
      (walk_eq_ok_iff.1 (by cbv)).2
    rw [resolve_eq_ok_iff, tight]
    exact ⟨⟨"Task", none, [⟨"profile", .embedded "Profile"⟩]⟩, by cbv,
      .plain (by decide) names leads⟩
  have resolves : ∀ condition ∈
      (Expression.condition ⟨"profile .age", .equals, .text "3"⟩).conditions,
      ∃ a, profiledTasks.resolve "Task" condition.path = .ok a := by
    intro condition mem
    obtain rfl := List.mem_singleton.1 mem
    exact ⟨_, resolved⟩
  have warned := (profiledTasks_reached.validate_of_resolves (by rfl) reads resolves).2.1
  exact ⟨reads, resolved, warned.trans (by cbv)⟩

end Warnings

end Registry

end EntitySearch
