import EntitySearch.Proofs.Database.Membership
import EntitySearch.Proofs.Documents.Nulls
import EntitySearch.Proofs.Search.Evaluation
import EntitySearch.Proofs.Text.Words

/-!
# Membership as comparisons with every item

To be one of a list is to be equal to one of its items, and to be none of it is to be different from
all of them. A search for the members of a list goes its own way all the same: every item of the
literal is converted, where a comparison converts one literal, and the memory and a database have
tests for a list next to those for a single value.

The two ways meet in every step. The conversion of a list fails exactly when that of some item does
(`Field.coerceFor_list_eq_ok_iff`), and a text is the list of the parts between its commas
(`Field.coerceFor_text_eq_ok_iff`). A document is accepted in memory, in a database as it is
documented, or by an engine (`Decider`), and for each of these a test for a list is true where the
one for some item is (`Decider.accepts_oneOf`). An engine stops with a failure at an element of a
relation that it cannot read, and it reads the elements in the same order for every test, so this
makes no difference (`someElement_eq_true_iff`).

The complement is another matter behind a relation to many entities: one that is none of the list is
not one for each item that differs from it. Without such a relation there is one value to look at,
and it is none of the list exactly when it is different from every item (`Decider.accepts_noneOf`).
The truth values of a database are the same ones: a null among the items makes it unknown that a
value is none of them, as it does the comparison with null.
-/

namespace EntitySearch

/-- The comparison that a membership test makes with each item. -/
def Operation.itemwise : Operation → Operation
  | .oneOf => .equals
  | .noneOf => .notEquals
  | operation => operation

/-- No membership test is one of patterns, and neither is the comparison with an item. -/
theorem Operation.plain_of_isMembership (operation : Operation) (member : operation.isMembership) :
    operation.isPattern = false ∧ operation.itemwise.isPattern = false := by
  cases operation with
  | oneOf | noneOf => exact ⟨rfl, rfl⟩
  | _ => cases member

/-! ### Converting lists -/

/-- **The parts of a text** between its commas, without the white space around them. -/
def Literal.parts (text : String) : List Literal :=
  (Text.splitAt ',' text.toList).map fun part => .text (String.ofList (Text.trim part))

/-- A text has at least one part. -/
theorem Literal.parts_ne_nil (text : String) : parts text ≠ [] :=
  mt List.map_eq_nil_iff.1 (Text.splitAt_ne_nil ',' text.toList)

namespace Field

variable {field : Field} {operation : Operation} {literals : List Literal} {value : TypedValue}

/-- A membership test converts the elements of its literal, if its field holds scalars. -/
theorem coerceFor_membership_eq_ok_iff (member : operation.isMembership) {literal : Literal} :
    field.coerceFor operation literal = .ok value ↔
      field.type.isScalar ∧ ∃ items,
        List.Forall₂ (fun element item => field.coerce element = .ok item) (elements literal)
          items ∧
        value = .list items := by
  rw [coerceFor, Operation.isNullCheck_of_isMembership member, member]
  cases scalar : field.type.isScalar with
  | false =>
    refine iff_of_false (fun failed => ?_) (fun both => Bool.false_ne_true both.1)
    cases failed
  | true =>
    show (elements literal).mapM field.coerce >>= _ = _ ↔ _
    rw [Outcome.bind_eq_ok_iff]
    simp only [Outcome.mapM_eq_ok_iff, Except.ok.injEq, true_and]
    exact exists_congr fun items => and_congr_right fun _ => eq_comm

/-- A comparison with an item converts it alone. -/
theorem coerceFor_itemwise_eq_ok_iff (member : operation.isMembership) {literal : Literal} :
    field.coerceFor operation.itemwise literal = .ok value ↔
      field.type.isScalar ∧ field.coerce literal = .ok value := by
  have ordinary : field.coerceFor operation.itemwise literal =
      if !field.type.isScalar then .error (field.conversionError literal)
      else field.coerce literal := by
    cases operation with
    | oneOf | noneOf => rfl
    | _ => cases member
  rw [ordinary]
  cases field.type.isScalar with
  | false =>
    refine iff_of_false (fun failed => ?_) (fun both => Bool.false_ne_true both.1)
    cases failed
  | true => exact ⟨fun converted => ⟨rfl, converted⟩, And.right⟩

/-- **A list is converted item by item**, each as for a comparison with it. -/
theorem coerceFor_list_eq_ok_iff (member : operation.isMembership) (nonempty : literals ≠ []) :
    field.coerceFor operation (.list literals) = .ok value ↔
      ∃ items, literals.mapM (field.coerceFor operation.itemwise) = .ok items ∧
        value = .list items := by
  rw [coerceFor_membership_eq_ok_iff member]
  simp only [Outcome.mapM_eq_ok_iff, coerceFor_itemwise_eq_ok_iff member]
  constructor
  · rintro ⟨scalar, items, pairs, rfl⟩
    exact ⟨items, pairs.imp fun _ _ converted => ⟨scalar, converted⟩, rfl⟩
  · rintro ⟨items, pairs, rfl⟩
    -- there is an item, and it is converted for a field of scalars only
    have scalar : field.type.isScalar := by
      cases pairs with
      | nil => exact absurd rfl nonempty
      | cons first _ => exact first.1
    exact ⟨scalar, items, pairs.imp fun _ _ converted => converted.2, rfl⟩

/-- **A text is converted as the list of its parts.** -/
theorem coerceFor_text_eq_ok_iff (member : operation.isMembership) (text : String) :
    field.coerceFor operation (.text text) = .ok value ↔
      field.coerceFor operation (.list (Literal.parts text)) = .ok value := by
  rw [coerceFor_membership_eq_ok_iff member, coerceFor_membership_eq_ok_iff member]
  rfl

/-- A literal that cannot be converted is reported as such. -/
theorem exists_conversion_of_coerce {literal : Literal} {error : SearchError}
    (failed : field.coerce literal = .error error) :
    ∃ name kind text, error = .conversion name kind text := by
  unfold coerce at failed
  split at failed
  · cases failed
  · split at failed
    · cases failed
    · exact ⟨_, _, _, (Except.error.inj failed).symm⟩

/-- For a membership test this is the first item that cannot be converted. -/
theorem exists_conversion_of_coerceFor {literal : Literal} {error : SearchError}
    (failed : field.coerceFor operation literal = .error error) :
    ∃ name kind text, error = .conversion name kind text := by
  -- null checks never fail, and patterns and memberships have readers of their own
  unfold coerceFor at failed
  split at failed
  · cases failed
  · split at failed
    · exact ⟨_, _, _, (Except.error.inj failed).symm⟩
    · split at failed
      · rcases Outcome.bind_eq_error_iff.1 failed with failed | ⟨_, _, failed⟩
        · obtain ⟨_, _, _, _, _, failed⟩ := Outcome.mapM_eq_error_iff.1 failed
          exact exists_conversion_of_coerce failed
        · cases failed
      · split at failed
        · unfold coercePattern at failed
          split at failed
          · cases failed
          · split at failed
            · cases failed
            · exact ⟨_, _, _, (Except.error.inj failed).symm⟩
        · exact exists_conversion_of_coerce failed

end Field

/-! ### Accepting documents -/

/-- **The ways to decide on a document**: in memory, in a database as it is documented, or by an
engine. -/
inductive Decider where
  | memory
  | database
  | engine

/-- **Whether a document is accepted** for a comparison. An engine has to come to an end without a
failure. -/
def Decider.Accepts (document : Json) (comparison : Comparison) : Decider → Prop
  | memory => (DocumentTest.ofComparison comparison).passes document = true
  | database => (Database.Condition.ofComparison comparison).isTrueOf document = true
  | engine => (Database.Condition.ofComparison comparison).holds document = .ok true

namespace Decider

open Database

variable {decider : Decider} {document : Json} {target : Attribute} {items : List TypedValue}
  (nonempty : items ≠ [])

include nonempty

/-- **A document is accepted for a list exactly when it is for some item.** -/
theorem accepts_oneOf :
    decider.Accepts document ⟨target, .oneOf, .list items⟩ ↔
      ∃ item ∈ items, decider.Accepts document ⟨target, .equals, item⟩ := by
  have listed : Operation.oneOf.isMembership → TypedValue.list items ≠ .list [] := by
    rintro - same
    exact nonempty (TypedValue.list.inj same)
  have single (item : TypedValue) : Operation.equals.isMembership → item ≠ .list [] := nofun
  -- all three look for some value of the document that some item is equal to, so the two are
  -- exchanged
  cases decider with
  | memory =>
    show ((DocumentTest.valuesAt target.place document).any _) = true ↔ ∃ item ∈ items,
      ((DocumentTest.valuesAt target.place document).any _) = true
    simp only [List.any_eq_true, DocumentTest.holds_oneOf]
    constructor
    · rintro ⟨found, there, item, mem, same⟩
      exact ⟨item, mem, found, there, same⟩
    · rintro ⟨item, mem, found, there, same⟩
      exact ⟨found, there, item, mem, same⟩
  | database =>
    unfold Accepts
    cases many : target.manyJoin? with
    | none =>
      rw [isTrueOf_direct listed many, Test.isTrueFor_oneOf]
      simp only [isTrueOf_direct (single _) many]
    | some join =>
      rw [isTrueOf_elements listed many]
      simp only [isTrueOf_elements (single _) many, List.any_eq_true, Test.isTrueFor_oneOf]
      constructor
      · rintro ⟨element, there, item, mem, same⟩
        exact ⟨item, mem, element, there, same⟩
      · rintro ⟨item, mem, element, there, same⟩
        exact ⟨element, there, item, mem, same⟩
  | engine =>
    unfold Accepts
    cases many : target.manyJoin? with
    | none =>
      rw [holds_direct listed many rfl, Except.ok.injEq, Test.isTrueFor_oneOf]
      simp only [holds_direct (single _) many rfl, Except.ok.injEq]
    | some join =>
      rw [holds_elements_iff listed many rfl]
      simp only [holds_elements_iff (single _) many rfl, Test.isTrueFor_oneOf]
      -- the elements are read in the same order for the list and for each item
      constructor
      · rintro ⟨front, element, behind, found, split, readable, read, item, mem, same⟩
        exact ⟨item, mem, front, element, behind, found, split, readable, read, same⟩
      · rintro ⟨item, mem, front, element, behind, found, split, readable, read, same⟩
        exact ⟨front, element, behind, found, split, readable, read, item, mem, same⟩

/-- **Without a relation to many entities** a document is accepted for the complement of a list
exactly when it is for being different from each item. -/
theorem accepts_noneOf (alone : target.manyJoin? = none) :
    decider.Accepts document ⟨target, .noneOf, .list items⟩ ↔
      ∀ item ∈ items, decider.Accepts document ⟨target, .notEquals, item⟩ := by
  have listed : Operation.noneOf.isMembership → TypedValue.list items ≠ .list [] := by
    rintro - same
    exact nonempty (TypedValue.list.inj same)
  have single (item : TypedValue) : Operation.notEquals.isMembership → item ≠ .list [] := nofun
  unfold Accepts
  cases decider with
  | memory =>
    -- the empty list, which every document passes, has been excluded
    have full : DocumentTest.isEmptyList (.list items) = false :=
      List.isEmpty_eq_false_iff.2 nonempty
    rw [passes_ofComparison alone rfl, full, Bool.and_false, Bool.false_or,
      DocumentTest.holds_noneOf nonempty, List.all_eq_true]
    refine forall_congr' fun item => forall_congr' fun _ => ?_
    rw [passes_ofComparison alone rfl]
    rfl
  | database =>
    simp only [isTrueOf_direct listed alone, isTrueOf_direct (single _) alone,
      Test.isTrueFor_noneOf]
  | engine =>
    simp only [holds_direct listed alone rfl, holds_direct (single _) alone rfl, Except.ok.injEq,
      Test.isTrueFor_noneOf]

end Decider

/-! ### Criteria -/

namespace Criterion

/-- The criterion with another operation and literal. -/
def asking (criterion : Criterion) (operation : Operation) (literal : Literal) : Criterion :=
  { criterion with operation := operation, value := literal }

/-- Whether the literal of a criterion cannot be converted. -/
def FailsConversion (criterion : Criterion) (registry : Registry) (config : Config)
    (entity : String) : Prop :=
  ∃ name kind text,
    criterion.comparison registry config entity = .error (.conversion name kind text)

/-- **Whether a document is accepted for a criterion**, which has to have a comparison. -/
def AcceptedBy (criterion : Criterion) (registry : Registry) (config : Config) (entity : String)
    (document : Json) (decider : Decider) : Prop :=
  ∃ comparison, criterion.comparison registry config entity = .ok comparison ∧
    decider.Accepts document comparison

section Membership

variable {criterion : Criterion} {registry : Registry} {config : Config} {entity : String}
  {target : Attribute} {operation : Operation} {literal : Literal} {literals : List Literal}
  (about : criterion.isAbout entity)
  (resolved : registry.resolve entity criterion.path = .ok target)

include about resolved

/-- The comparison with a literal for an attribute is made when the literal is converted. -/
theorem comparison_asking_eq_ok_iff (plain : operation.isPattern = false)
    {comparison : Comparison} :
    (criterion.asking operation literal).comparison registry config entity = .ok comparison ↔
      ∃ value, target.field.coerceFor operation literal = .ok value ∧
        comparison = ⟨target, operation, value⟩ := by
  have made : (criterion.asking operation literal).comparison registry config entity =
      (target.field.coerceFor operation literal).map fun value => ⟨target, operation, value⟩ :=
    comparison_eq_map about resolved plain
  rw [made, Outcome.map_eq_ok_iff]
  exact exists_congr fun value => and_congr_right fun _ => eq_comm

/-- The conversion of a criterion fails exactly when its literal is not converted. -/
theorem failsConversion_iff (plain : operation.isPattern = false) :
    (criterion.asking operation literal).FailsConversion registry config entity ↔
      ¬ ∃ value, target.field.coerceFor operation literal = .ok value := by
  have made : (criterion.asking operation literal).comparison registry config entity =
      (target.field.coerceFor operation literal).map fun value => ⟨target, operation, value⟩ :=
    comparison_eq_map about resolved plain
  rw [FailsConversion, made]
  cases converted : target.field.coerceFor operation literal with
  | ok value => exact iff_of_false nofun (fun none => none ⟨value, rfl⟩)
  | error fault =>
    obtain ⟨name, kind, text, rfl⟩ := Field.exists_conversion_of_coerceFor converted
    exact iff_of_true ⟨name, kind, text, rfl⟩ nofun

theorem acceptedBy_iff (plain : operation.isPattern = false) {document : Json}
    {decider : Decider} :
    (criterion.asking operation literal).AcceptedBy registry config entity document decider ↔
      ∃ value, target.field.coerceFor operation literal = .ok value ∧
        decider.Accepts document ⟨target, operation, value⟩ := by
  unfold AcceptedBy
  simp only [comparison_asking_eq_ok_iff about resolved plain]
  constructor
  · rintro ⟨comparison, ⟨value, converted, rfl⟩, accepted⟩
    exact ⟨value, converted, accepted⟩
  · rintro ⟨value, converted, accepted⟩
    exact ⟨_, ⟨value, converted, rfl⟩, accepted⟩

/-- **The conversion of a list fails** exactly when that of some item does. -/
theorem failsConversion_list_iff (member : operation.isMembership) (nonempty : literals ≠ []) :
    (criterion.asking operation (.list literals)).FailsConversion registry config entity ↔
      ∃ literal ∈ literals,
        (criterion.asking operation.itemwise literal).FailsConversion registry config entity := by
  have plain := operation.plain_of_isMembership member
  rw [failsConversion_iff about resolved plain.1]
  simp only [failsConversion_iff about resolved plain.2,
    Field.coerceFor_list_eq_ok_iff member nonempty]
  calc (¬ ∃ value items, literals.mapM (target.field.coerceFor operation.itemwise) = .ok items ∧
          value = TypedValue.list items)
      ↔ ¬ ∃ items, literals.mapM (target.field.coerceFor operation.itemwise) = .ok items := by
        simp only [exists_comm (α := TypedValue), exists_and_left, exists_eq, and_true]
    _ ↔ ∃ literal ∈ literals,
          ¬ ∃ value, target.field.coerceFor operation.itemwise literal = .ok value := by
        rw [Outcome.exists_mapM_eq_ok_iff]
        simp only [not_forall, exists_prop]

/-- What a list accepts is decided by its items, which all have to be converted. -/
theorem acceptedBy_list_iff (member : operation.isMembership) (nonempty : literals ≠ [])
    {document : Json} {decider : Decider} :
    (criterion.asking operation (.list literals)).AcceptedBy registry config entity document
        decider ↔
      ∃ items, literals.mapM (target.field.coerceFor operation.itemwise) = .ok items ∧
        decider.Accepts document ⟨target, operation, .list items⟩ := by
  rw [acceptedBy_iff about resolved (operation.plain_of_isMembership member).1]
  simp only [Field.coerceFor_list_eq_ok_iff member nonempty]
  constructor
  · rintro ⟨_, ⟨items, converted, rfl⟩, accepted⟩
    exact ⟨items, converted, accepted⟩
  · rintro ⟨items, converted, accepted⟩
    exact ⟨_, ⟨items, converted, rfl⟩, accepted⟩

/-- **A list accepts what some item accepts**, if it can be converted. -/
theorem acceptedBy_oneOf_iff (nonempty : literals ≠ []) {document : Json} {decider : Decider}
    (converts :
      ¬ (criterion.asking .oneOf (.list literals)).FailsConversion registry config entity) :
    (criterion.asking .oneOf (.list literals)).AcceptedBy registry config entity document decider ↔
      ∃ literal ∈ literals,
        (criterion.asking .equals literal).AcceptedBy registry config entity document decider := by
  have single (literal : Literal) :
      (criterion.asking .equals literal).AcceptedBy registry config entity document decider ↔
        ∃ item, target.field.coerceFor .equals literal = .ok item ∧
          decider.Accepts document ⟨target, .equals, item⟩ :=
    acceptedBy_iff about resolved rfl
  rw [acceptedBy_list_iff about resolved rfl nonempty]
  constructor
  · rintro ⟨items, converted, accepted⟩
    have some := Outcome.ne_nil_of_mapM_eq_ok converted nonempty
    obtain ⟨item, listed, accepted⟩ := (Decider.accepts_oneOf some).1 accepted
    obtain ⟨literal, mem, value⟩ := (Outcome.exists_of_mapM_eq_ok converted).2 item listed
    exact ⟨literal, mem, (single literal).2 ⟨item, value, accepted⟩⟩
  · rintro ⟨literal, mem, accepted⟩
    obtain ⟨item, value, accepted⟩ := (single literal).1 accepted
    -- the item is one of those that the list is converted to
    rw [failsConversion_iff about resolved rfl, not_not] at converts
    obtain ⟨_, converted⟩ := converts
    obtain ⟨items, converted, -⟩ := (Field.coerceFor_list_eq_ok_iff rfl nonempty).1 converted
    obtain ⟨other, listed, same⟩ := (Outcome.exists_of_mapM_eq_ok converted).1 literal mem
    obtain rfl := Except.ok.inj (value.symm.trans same)
    have some := List.ne_nil_of_mem listed
    exact ⟨items, converted, (Decider.accepts_oneOf some).2 ⟨item, listed, accepted⟩⟩

/-- **The complement of a list accepts what every item accepts** for being different from it. -/
theorem acceptedBy_noneOf_iff (nonempty : literals ≠ []) (alone : target.manyJoin? = none)
    {document : Json} {decider : Decider} :
    (criterion.asking .noneOf (.list literals)).AcceptedBy registry config entity document decider ↔
      ∀ literal ∈ literals,
        (criterion.asking .notEquals literal).AcceptedBy registry config entity document
          decider := by
  have single (literal : Literal) :
      (criterion.asking .notEquals literal).AcceptedBy registry config entity document decider ↔
        ∃ item, target.field.coerceFor .notEquals literal = .ok item ∧
          decider.Accepts document ⟨target, .notEquals, item⟩ :=
    acceptedBy_iff about resolved rfl
  rw [acceptedBy_list_iff about resolved rfl nonempty]
  constructor
  · rintro ⟨items, converted, accepted⟩ literal mem
    have some := Outcome.ne_nil_of_mapM_eq_ok converted nonempty
    obtain ⟨item, listed, value⟩ := (Outcome.exists_of_mapM_eq_ok converted).1 literal mem
    exact (single literal).2
      ⟨item, value, (Decider.accepts_noneOf some alone).1 accepted item listed⟩
  · intro all
    -- each item is accepted, so each can be converted, and then the list can
    have values (literal : Literal) (mem : literal ∈ literals) :=
      (single literal).1 (all literal mem)
    obtain ⟨items, converted⟩ := Outcome.exists_mapM_eq_ok_iff.2 fun literal mem =>
      (values literal mem).imp fun _ both => both.1
    have accepted : ∀ item ∈ items, decider.Accepts document ⟨target, .notEquals, item⟩ := by
      intro item listed
      obtain ⟨literal, mem, value⟩ := (Outcome.exists_of_mapM_eq_ok converted).2 item listed
      obtain ⟨other, value', accepted⟩ := values literal mem
      obtain rfl := Except.ok.inj (value.symm.trans value')
      exact accepted
    have some := Outcome.ne_nil_of_mapM_eq_ok converted nonempty
    exact ⟨items, converted, (Decider.accepts_noneOf some alone).2 accepted⟩

/-- A text is compared as the list of its parts. -/
theorem comparison_text_eq_ok_iff (member : operation.isMembership) (text : String)
    {comparison : Comparison} :
    (criterion.asking operation (.text text)).comparison registry config entity = .ok comparison ↔
      (criterion.asking operation (.list (Literal.parts text))).comparison registry config entity =
        .ok comparison := by
  have plain := (operation.plain_of_isMembership member).1
  rw [comparison_asking_eq_ok_iff about resolved plain,
    comparison_asking_eq_ok_iff about resolved plain]
  simp only [Field.coerceFor_text_eq_ok_iff member]

/-- The conversion of a text fails where that of the list of its parts does. -/
theorem failsConversion_text_iff (member : operation.isMembership) (text : String) :
    (criterion.asking operation (.text text)).FailsConversion registry config entity ↔
      (criterion.asking operation (.list (Literal.parts text))).FailsConversion registry config
        entity := by
  have plain := (operation.plain_of_isMembership member).1
  rw [failsConversion_iff about resolved plain, failsConversion_iff about resolved plain]
  simp only [Field.coerceFor_text_eq_ok_iff member]

/-- A text accepts what the list of its parts accepts. -/
theorem acceptedBy_text_iff (member : operation.isMembership) (text : String) {document : Json}
    {decider : Decider} :
    (criterion.asking operation (.text text)).AcceptedBy registry config entity document decider ↔
      (criterion.asking operation (.list (Literal.parts text))).AcceptedBy registry config entity
        document decider :=
  exists_congr fun _ =>
    and_congr_left fun _ => comparison_text_eq_ok_iff about resolved member text

/-- **Membership in a text.** The items that count are the parts between the commas of the text.
There always is one, so a text needs no condition where a list must not be empty. -/
theorem membership_parts (text : String) (document : Json) :
    ((criterion.asking .oneOf (.text text)).FailsConversion registry config entity ↔
      ∃ part ∈ Literal.parts text,
        (criterion.asking .equals part).FailsConversion registry config entity) ∧
    (¬ (criterion.asking .oneOf (.text text)).FailsConversion registry config entity →
      ∀ decider,
        (criterion.asking .oneOf (.text text)).AcceptedBy registry config entity document decider ↔
          ∃ part ∈ Literal.parts text,
            (criterion.asking .equals part).AcceptedBy registry config entity document decider) ∧
    (target.manyJoin? = none → ∀ decider,
      (criterion.asking .noneOf (.text text)).AcceptedBy registry config entity document decider ↔
        ∀ part ∈ Literal.parts text,
          (criterion.asking .notEquals part).AcceptedBy registry config entity document
            decider) := by
  have some := Literal.parts_ne_nil text
  rw [failsConversion_text_iff about resolved rfl]
  refine ⟨failsConversion_list_iff about resolved rfl some, fun converts decider => ?_,
    fun alone decider => ?_⟩
  · rw [acceptedBy_text_iff about resolved rfl]
    exact acceptedBy_oneOf_iff about resolved some converts
  · rw [acceptedBy_text_iff about resolved rfl]
    exact acceptedBy_noneOf_iff about resolved some alone

/-- **Membership is a disjunction of equalities.** For an attribute and a list of literals that is
not empty, the conversion of a criterion for being one of the list fails exactly when that of some
criterion for being equal to an item does, and otherwise it accepts the documents that one of these
accepts, in memory, in a database and by an engine. Without a relation to many entities, being none
of the list is being different from each item. A text is the list of its parts. -/
theorem membership_iff_equalities (nonempty : literals ≠ []) (document : Json) :
    ((criterion.asking .oneOf (.list literals)).FailsConversion registry config entity ↔
      ∃ literal ∈ literals,
        (criterion.asking .equals literal).FailsConversion registry config entity) ∧
    ((criterion.asking .noneOf (.list literals)).FailsConversion registry config entity ↔
      ∃ literal ∈ literals,
        (criterion.asking .notEquals literal).FailsConversion registry config entity) ∧
    (¬ (criterion.asking .oneOf (.list literals)).FailsConversion registry config entity →
      ∀ decider,
        (criterion.asking .oneOf (.list literals)).AcceptedBy registry config entity document
            decider ↔
          ∃ literal ∈ literals,
            (criterion.asking .equals literal).AcceptedBy registry config entity document
              decider) ∧
    (target.manyJoin? = none → ∀ decider,
      (criterion.asking .noneOf (.list literals)).AcceptedBy registry config entity document
          decider ↔
        ∀ literal ∈ literals,
          (criterion.asking .notEquals literal).AcceptedBy registry config entity document
            decider) ∧
    ∀ operation, operation.isMembership → ∀ text,
      ((criterion.asking operation (.text text)).FailsConversion registry config entity ↔
        (criterion.asking operation (.list (Literal.parts text))).FailsConversion registry config
          entity) ∧
      ∀ comparison,
        (criterion.asking operation (.text text)).comparison registry config entity =
            .ok comparison ↔
          (criterion.asking operation (.list (Literal.parts text))).comparison registry config
            entity = .ok comparison := by
  refine ⟨failsConversion_list_iff about resolved rfl nonempty,
    failsConversion_list_iff about resolved rfl nonempty, ?_, ?_, ?_⟩
  · intro converts decider
    exact acceptedBy_oneOf_iff about resolved nonempty converts
  · intro alone decider
    exact acceptedBy_noneOf_iff about resolved nonempty alone
  · intro operation member text
    exact ⟨failsConversion_text_iff about resolved member text,
      fun _ => comparison_text_eq_ok_iff about resolved member text⟩

end Membership

/-- A criterion for the text of a task. -/
def aboutText : Criterion := ⟨"C", "Task", "a", .equals, .null⟩

/-- A list with a number, a null and a word for a text: the text `3` is one of it everywhere, for it
is the text of the number, and no text is none of it, for none is different from null. -/
theorem membership_iff_equalities_aboutText :
    let literals : List Literal := [.text "x", .null, .integer 3]
    ∀ decider,
      (aboutText.asking .oneOf (.list literals)).AcceptedBy Request.sharedRegistry {} "Task"
          (.object [("a", .text "3")]) decider ∧
        ¬ (aboutText.asking .noneOf (.list literals)).AcceptedBy Request.sharedRegistry {} "Task"
          (.object [("a", .text "y")]) decider := by
  intro literals decider
  have about : aboutText.isAbout "Task" := rfl
  have resolved : Request.sharedRegistry.resolve "Task" "a" =
      .ok ⟨"Task", none, ["a"], ⟨"a", .text⟩⟩ := by rfl
  have nonempty : literals ≠ [] := List.cons_ne_nil _ _
  have converts : ¬ (aboutText.asking .oneOf (.list literals)).FailsConversion
      Request.sharedRegistry {} "Task" := by
    rintro ⟨name, kind, text, failed⟩
    have made : (aboutText.asking .oneOf (.list literals)).comparison Request.sharedRegistry {}
        "Task" = .ok ⟨⟨"Task", none, ["a"], ⟨"a", .text⟩⟩, .oneOf,
          .list [.text "x", .null, .text "3"]⟩ := by cbv
    cases made.symm.trans failed
  constructor
  · obtain ⟨-, -, one, -⟩ := @membership_iff_equalities aboutText Request.sharedRegistry {} "Task" _
      literals about resolved nonempty (.object [("a", .text "3")])
    refine (one converts decider).2 ⟨.integer 3, by simp [literals], ⟨_, rfl, ?_⟩⟩
    cases decider <;> rfl
  · obtain ⟨-, -, -, none, -⟩ := @membership_iff_equalities aboutText Request.sharedRegistry {}
      "Task" _ literals about resolved nonempty (.object [("a", .text "y")])
    intro accepted
    have made : (aboutText.asking .notEquals .null).comparison Request.sharedRegistry {} "Task" =
        .ok ⟨⟨"Task", .none, ["a"], ⟨"a", .text⟩⟩, .notEquals, .null⟩ := by rfl
    obtain ⟨_, compared, accepted⟩ := (none rfl decider).1 accepted .null (by simp [literals])
    obtain rfl := Except.ok.inj (made.symm.trans compared)
    cases decider <;> cases accepted

end Criterion

end EntitySearch
