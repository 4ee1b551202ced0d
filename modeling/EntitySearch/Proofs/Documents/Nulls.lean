import EntitySearch.Proofs.Database.Agreement
import EntitySearch.Proofs.Search.Evaluation

/-!
# Nulls in comparisons

Null is no scalar, and values are compared as scalars. So a comparison with null is satisfied by no
document, a document without the value satisfies no comparison, and between two scalars an operation
holds exactly when its complement does not. What has to be known for it is that a literal is
converted to null, to a scalar or to a list of these (`Field.isOperand_of_coerceFor`).

Patterns are the exception. A pattern is matched as a text, and the text of null is the word `null`:
a document satisfies the pattern of a null literal when its value fits that word, and the negated
pattern when its value does not (`Criterion.satisfiedBy_nulls`). So the negated pattern of a null
literal is satisfied by nearly every document that has the value.
-/

namespace EntitySearch

namespace Operation

/-- **The complement of an operation**: it is to hold where the operation does not. -/
def complement : Operation → Operation
  | equals => notEquals
  | notEquals => equals
  | less => greaterEqual
  | greaterEqual => less
  | greater => lessEqual
  | lessEqual => greater
  | oneOf => noneOf
  | noneOf => oneOf
  | like => notLike
  | notLike => like
  | isNull => isNotNull
  | isNotNull => isNull

section Complement

variable (operation : Operation)

/-- An operation and its complement are of one kind. -/
@[simp] theorem isNullCheck_complement :
    operation.complement.isNullCheck = operation.isNullCheck := by
  cases operation <;> rfl

@[simp] theorem isMembership_complement :
    operation.complement.isMembership = operation.isMembership := by
  cases operation <;> rfl

@[simp] theorem isPattern_complement :
    operation.complement.isPattern = operation.isPattern := by
  cases operation <;> rfl

end Complement

end Operation

/-! ### Converted literals -/

namespace TypedValue

/-- A value that is null or has a scalar; lists are neither. -/
def Settled (value : TypedValue) : Prop := value = null ∨ value.scalar?.isSome

/-- Whether a value is null or a list with null in it. -/
def hasNull : TypedValue → Bool
  | list items => items.any isNull
  | value => value.isNull

/-- **The operands of an operation**: a list of settled values for a membership test, and a settled
value for any other operation. -/
def IsOperand (operation : Operation) (value : TypedValue) : Prop :=
  if operation.isMembership then
    ∃ items, value = list items ∧ ∀ item ∈ items, item.Settled
  else value.Settled

theorem Settled.isSome_scalar? {value : TypedValue} (settled : value.Settled)
    (known : value.isNull = false) : value.scalar?.isSome := by
  rcases settled with rfl | scalar
  · cases known
  · exact scalar

end TypedValue

/-- A text is converted to a scalar, or to null for a name that is no constant. -/
theorem FieldType.settled_of_valueOf? {type : FieldType} {text : String} {value : TypedValue}
    (converted : type.valueOf? text = some value) : value.Settled := by
  cases type with
  | text =>
    obtain rfl := Option.some.inj converted
    exact Or.inr rfl
  | integer | long | double | decimal | boolean | uuid | date | dateTime =>
    obtain ⟨_, _, rfl⟩ := Option.map_eq_some_iff.1 converted
    exact Or.inr rfl
  | enumeration constants =>
    obtain rfl := Option.some.inj converted
    split
    · exact Or.inr rfl
    · exact Or.inl rfl
  | embedded | relation => cases converted

namespace Field

variable {field : Field} {literal : Literal} {operation : Operation} {value : TypedValue}

/-- A scalar literal is converted to a scalar or to null. -/
theorem settled_of_coerce (converted : field.coerce literal = .ok value) : value.Settled := by
  rw [coerce] at converted
  split at converted
  · exact Or.inl (Except.ok.inj converted).symm
  · split at converted
    · next found =>
      obtain rfl := Except.ok.inj converted
      obtain ⟨text, _, read⟩ := Option.bind_eq_some_iff.1 found
      exact FieldType.settled_of_valueOf? read
    · cases converted

/-- A pattern is a text or null. -/
theorem settled_of_coercePattern (converted : field.coercePattern literal = .ok value) :
    value.Settled := by
  rw [coercePattern] at converted
  split at converted
  · exact Or.inl (Except.ok.inj converted).symm
  · split at converted
    · obtain rfl := Except.ok.inj converted
      exact Or.inr rfl
    · cases converted

/-- **A literal is converted to an operand** of the operation. -/
theorem isOperand_of_coerceFor (converted : field.coerceFor operation literal = .ok value) :
    value.IsOperand operation := by
  cases single : operation.isMembership with
  | true =>
    obtain ⟨items, elements, rfl⟩ := Database.elements_of_coerceFor single converted
    have each : List.Forall₂ (fun element item => field.coerce element = .ok item)
        (Field.elements literal) items := Outcome.mapM_eq_ok_iff.1 elements
    -- each item is converted by itself, so each is settled
    have settled : ∀ item ∈ items, item.Settled := by
      clear elements converted
      generalize Field.elements literal = parts at each
      induction each with
      | nil => exact fun item mem => nomatch mem
      | cons first _ ih => exact List.forall_mem_cons.2 ⟨settled_of_coerce first, ih⟩
    rw [TypedValue.IsOperand, if_pos single]
    exact ⟨items, rfl, settled⟩
  | false =>
    rw [TypedValue.IsOperand, single, if_neg Bool.false_ne_true]
    rw [coerceFor, single] at converted
    split at converted
    · -- a null check has null for its operand
      exact Or.inl (Except.ok.inj converted).symm
    · split at converted
      · cases converted
      · rw [if_neg Bool.false_ne_true] at converted
        split at converted
        · exact settled_of_coercePattern converted
        · exact settled_of_coerce converted

/-- An operation and its complement convert a literal alike. -/
theorem coerceFor_complement (field : Field) (operation : Operation) (literal : Literal) :
    field.coerceFor operation.complement literal = field.coerceFor operation literal := by
  cases operation <;> rfl

end Field

namespace Comparison

variable {config : Config} {operation : Operation} {value : TypedValue}

theorem wrapped_complement (config : Config) (operation : Operation) (value : TypedValue) :
    wrapped config operation.complement value = wrapped config operation value := by
  cases operation <;> rfl

/-- A pattern that gets wildcards around it is still a text, and nothing else is changed. -/
theorem wrapped_isOperand (operand : value.IsOperand operation) :
    (wrapped config operation value).IsOperand operation := by
  cases value with
  | text pattern =>
    rw [wrapped]
    split
    · next wraps =>
      -- wildcards are put around patterns only
      obtain ⟨patterned, _⟩ := Bool.and_eq_true_iff.1 (Bool.and_eq_true_iff.1 wraps).1
      rw [TypedValue.IsOperand, Operation.isMembership_of_isPattern patterned,
        if_neg Bool.false_ne_true]
      exact Or.inr rfl
    · exact operand
  | _ => exact operand

end Comparison

/-! ### Tests of null -/

theorem Json.isSome_scalar? {found : Json} (known : found ≠ .null) : found.scalar?.isSome := by
  cases found with
  | null => exact absurd rfl known
  | _ => rfl

namespace DocumentTest

variable {operation : Operation} {value : TypedValue} {items : List TypedValue} {found : Json}

/-- An operation without a list compares by the order of the two values. -/
theorem holds_eq_any (ordinary : operation.isNullCheck = false)
    (single : operation.isMembership = false) (value : TypedValue) (found : Json) :
    holds operation value found = (found.orderTyped? value).any operation.holdsOf := by
  cases operation with
  | isNull | isNotNull => cases ordinary
  | oneOf | noneOf => cases single
  | _ => cases compared : found.orderTyped? value <;> simp [holds, compared]

/-- **Being one of a list** is being equal to one of its items. -/
theorem holds_oneOf (items : List TypedValue) (found : Json) :
    holds .oneOf (.list items) found = items.any fun item => holds .equals item found := by
  rw [holds, membership_isOneOf, isOneOf]
  congr 1
  funext item
  rw [holds_eq_any rfl rfl]
  cases found.orderTyped? item with
  | none => rfl
  | some order => cases order <;> rfl

/-- **Being none of a list** that has an item is being different from each of them. -/
theorem holds_noneOf (nonempty : items ≠ []) (found : Json) :
    holds .noneOf (.list items) found = items.all fun item => holds .notEquals item found := by
  rw [holds, membership_isNoneOf nonempty]
  rfl

/-- **Nothing holds of null** but that it is null. -/
theorem holds_null (ordinary : operation.isNullCheck = false) (value : TypedValue) :
    holds operation value .null = false := by
  cases operation with
  | isNull | isNotNull => cases ordinary
  | oneOf | noneOf => cases value <;> rfl
  | _ => exact holds_eq_any rfl rfl value .null

/-- **No comparison with null** holds. -/
theorem holds_value_null (ordinary : operation.isNullCheck = false)
    (single : operation.isMembership = false) (found : Json) :
    holds operation .null found = false := by
  have unknown : found.orderTyped? .null = none := by
    rw [Json.orderTyped?_eq]
    exact Option.map₂_none_right _ _
  rw [holds_eq_any ordinary single, unknown, Option.any_none]

/-- Two scalars compare. -/
theorem exists_orderTyped? (stored : found.scalar?.isSome) (given : value.scalar?.isSome) :
    ∃ order, found.orderTyped? value = some order := by
  obtain ⟨a, stored⟩ := Option.isSome_iff_exists.1 stored
  obtain ⟨b, given⟩ := Option.isSome_iff_exists.1 given
  rw [Json.orderTyped?_eq, stored, given]
  exact ⟨_, rfl⟩

/-- A scalar is none of a list of scalars exactly when it is not one of them. -/
theorem isNoneOf_eq_not_isOneOf (stored : found.scalar?.isSome)
    (given : ∀ item ∈ items, item.scalar?.isSome) :
    isNoneOf found items = !isOneOf found items := by
  induction items with
  | nil => rfl
  | cons item items ih =>
    obtain ⟨first, others⟩ := List.forall_mem_cons.1 given
    -- scalars are always in some order, which the two tests read the other way round
    obtain ⟨order, compared⟩ := exists_orderTyped? stored first
    have step : isNoneOf found (item :: items) = (order != .eq && isNoneOf found items) := by
      rw [isNoneOf, List.all_cons, compared]
      rfl
    have step' : isOneOf found (item :: items) = (order == .eq || isOneOf found items) := by
      rw [isOneOf, List.any_cons, compared]
      rfl
    rw [step, step', ih others, Bool.not_or]
    rfl

/-- A value that is there is in no empty list. -/
theorem holds_noneOf_empty (stored : found.scalar?.isSome) (empty : isEmptyList value) :
    holds .noneOf value found := by
  cases value with
  | list items =>
    obtain rfl := List.isEmpty_iff.1 empty
    change (_ && true) = true
    rw [stored, Bool.and_true]
  | _ => cases empty

/-- The complement of an operation holds of the opposite orders. -/
theorem holdsOf_complement (ordinary : operation.isNullCheck = false)
    (single : operation.isMembership = false) (plain : operation.isPattern = false)
    (order : Ordering) : operation.complement.holdsOf order = !operation.holdsOf order := by
  cases operation with
  | isNull | isNotNull => cases ordinary
  | oneOf | noneOf => cases single
  | like | notLike => cases plain
  | _ => cases order <;> rfl

/-- **Of a scalar and an operand without null** an operation holds or its complement does, but not
both. -/
theorem holds_complement (ordinary : operation.isNullCheck = false)
    (plain : operation.isPattern = false) (stored : found.scalar?.isSome)
    (operand : value.IsOperand operation) (known : value.hasNull = false) :
    holds operation.complement value found = !holds operation value found := by
  cases single : operation.isMembership with
  | true =>
    rw [TypedValue.IsOperand, if_pos single] at operand
    obtain ⟨items, rfl, settled⟩ := operand
    -- no item is null, so all have scalars and every item can be compared
    have given : ∀ item ∈ items, item.scalar?.isSome := fun item mem =>
      (settled item mem).isSome_scalar? (Bool.eq_false_iff.2 (List.any_eq_false.1 known item mem))
    have none : holds .noneOf (.list items) found = isNoneOf found items := by
      change (_ && _) = _
      rw [stored, Bool.true_and]
    have one : holds .oneOf (.list items) found = isOneOf found items := by
      change (_ && _) = _
      rw [stored, Bool.true_and]
    -- what is one of the items is not none of them, once nothing is unknown
    have opposite : holds .noneOf (.list items) found = !holds .oneOf (.list items) found := by
      rw [none, one, isNoneOf_eq_not_isOneOf stored given]
    cases operation with
    | oneOf => exact opposite
    | noneOf => rw [opposite, Bool.not_not, Operation.complement]
    | _ => cases single
  | false =>
    rw [TypedValue.IsOperand, single, if_neg Bool.false_ne_true] at operand
    have given : value.scalar?.isSome := by
      refine operand.isSome_scalar? ?_
      cases value with
      | null => cases known
      | _ => rfl
    -- both sides have scalars, so they compare in some order, and the complement holds of all other
    -- orders
    obtain ⟨order, compared⟩ := exists_orderTyped? stored given
    have ordinary' : operation.complement.isNullCheck = false := by
      rw [Operation.isNullCheck_complement, ordinary]
    have single' : operation.complement.isMembership = false := by
      rw [Operation.isMembership_complement, single]
    rw [holds_eq_any ordinary' single', holds_eq_any ordinary single, compared, Option.any_some,
      Option.any_some, holdsOf_complement ordinary single plain]

/-- **Of a value with a text** a pattern is fitted or its negation is, but not both. -/
theorem fits_complement (pattern : operation.isPattern) (text : String)
    (stored : found.scalar?.isSome) :
    fits text (operation.complement == .notLike) found =
      !fits text (operation == .notLike) found := by
  -- null is the one value without a text
  have known : ∃ spelled, patternText? found = some spelled := by
    cases found with
    | null => cases stored
    | _ => exact ⟨_, rfl⟩
  obtain ⟨spelled, known⟩ := known
  rw [fits, fits, known]
  dsimp only
  cases operation with
  | like | notLike => cases (CompiledPattern.ofSource text).isMatch spelled <;> rfl
  | _ => cases pattern

end DocumentTest

/-! ### Criteria -/

namespace Comparison

variable {target : Attribute} {operation : Operation} {value : TypedValue}

/-- **A test of null**: patterns apart, no document passes it. -/
theorem passes_value_null (ordinary : operation.isNullCheck = false)
    (single : operation.isMembership = false) (target : Attribute) (document : Json) :
    (DocumentTest.ofComparison ⟨target, operation, .null⟩).passes document =
      (operation.isPattern && (DocumentTest.valuesAt target.place document).any
        (DocumentTest.fits "null" (operation == .notLike))) := by
  rw [DocumentTest.ofComparison]
  cases plain : operation.isPattern with
  | true => rfl
  | false =>
    -- null is no empty list
    have listed : (operation = .noneOf && DocumentTest.isEmptyList .null) = false :=
      Bool.and_false _
    change (if _ then _ else _) = false
    rw [listed, if_neg Bool.false_ne_true, List.any_eq_false]
    intro found _
    rw [DocumentTest.holds_value_null ordinary single]
    exact Bool.false_ne_true

/-- **A test of a missing value** is not passed, unless it is the one for not being in an empty
list. -/
theorem passes_null {document : Json} (ordinary : operation.isNullCheck = false)
    (one : target.manyJoin? = none)
    (missing : DocumentTest.valueAt target.documentPath document = .null) :
    (DocumentTest.ofComparison ⟨target, operation, value⟩).passes document =
      (operation = .noneOf && DocumentTest.isEmptyList value) := by
  cases plain : operation.isPattern with
  | true =>
    have other : (decide (operation = .noneOf)) = false := by cases operation <;> trivial
    rw [Database.passes_ofPattern one plain, missing, other]
    rfl
  | false =>
    rw [Database.passes_ofComparison one plain, missing, DocumentTest.holds_null ordinary,
      Bool.or_false]

/-- A test of a value that is there looks for the value in every list. -/
theorem passes_stored {document : Json} (one : target.manyJoin? = none)
    (plain : operation.isPattern = false)
    (stored : (DocumentTest.valueAt target.documentPath document).scalar?.isSome) :
    (DocumentTest.ofComparison ⟨target, operation, value⟩).passes document =
      DocumentTest.holds operation value
        (DocumentTest.valueAt target.documentPath document) := by
  rw [Database.passes_ofComparison one plain, Bool.or_eq_right_iff_imp]
  intro empty
  obtain ⟨isNone, empty⟩ := Bool.and_eq_true_iff.1 empty
  obtain rfl : operation = .noneOf := of_decide_eq_true isNone
  exact DocumentTest.holds_noneOf_empty stored empty

/-- **A test of a value that is there** is passed exactly when the one with the complement is not.
-/
theorem passes_complement {document : Json} (ordinary : operation.isNullCheck = false)
    (one : target.manyJoin? = none)
    (there : DocumentTest.valueAt target.documentPath document ≠ .null)
    (operand : value.IsOperand operation) (known : value.hasNull = false) :
    (DocumentTest.ofComparison ⟨target, operation.complement, value⟩).passes document =
      !(DocumentTest.ofComparison ⟨target, operation, value⟩).passes document := by
  have stored := Json.isSome_scalar? there
  have same : operation.complement.isPattern = operation.isPattern :=
    Operation.isPattern_complement operation
  cases plain : operation.isPattern with
  | true =>
    rw [Database.passes_ofPattern one plain, Database.passes_ofPattern one (same.trans plain),
      DocumentTest.fits_complement plain _ stored]
  | false =>
    rw [passes_stored one plain stored, passes_stored one (same.trans plain) stored,
      DocumentTest.holds_complement ordinary plain stored operand known]

end Comparison

namespace Criterion

variable {criterion : Criterion} {registry : Registry} {config : Config} {entity : String}
  {comparison : Comparison}

/-- The criterion with the complement of its operation. -/
def complement (criterion : Criterion) : Criterion :=
  { criterion with operation := criterion.operation.complement }

/-- **The complement compares** the same attribute with the same value. -/
theorem comparison_complement (compared : criterion.comparison registry config entity =
    .ok comparison) :
    criterion.complement.comparison registry config entity =
      .ok ⟨comparison.target, criterion.operation.complement, comparison.value⟩ := by
  obtain ⟨about, target, value, resolved, converted, rfl⟩ := comparison_eq_ok_iff.1 compared
  refine comparison_eq_ok_iff.2 ⟨about, target, value, resolved, ?_, ?_⟩
  · exact (Field.coerceFor_complement target.field criterion.operation criterion.value).trans
      converted
  · rw [complement, Comparison.wrapped_complement]

/-- **What null does to a criterion** that can be compared. A criterion with a null literal is
satisfied by no document, but as a pattern the literal is the word `null`. Without a join to many
entities a document that lacks the value satisfies no criterion, except that it is in no empty list,
and otherwise a document satisfies either the criterion or its complement. -/
theorem satisfiedBy_nulls (compared : criterion.comparison registry config entity = .ok comparison)
    (ordinary : criterion.operation.isNullCheck = false) (document : Json) :
    (comparison.target.field.coerceFor criterion.operation criterion.value = .ok .null →
      criterion.satisfiedBy registry config entity document =
        (criterion.operation.isPattern &&
          (DocumentTest.valuesAt comparison.target.place document).any
            (DocumentTest.fits "null" (criterion.operation == .notLike)))) ∧
    (comparison.target.manyJoin? = none →
      (DocumentTest.valueAt comparison.target.documentPath document = .null →
        criterion.satisfiedBy registry config entity document =
          (criterion.operation = .noneOf && DocumentTest.isEmptyList comparison.value)) ∧
      (DocumentTest.valueAt comparison.target.documentPath document ≠ .null →
        comparison.value.hasNull = false →
          criterion.complement.comparison registry config entity =
            .ok ⟨comparison.target, criterion.operation.complement, comparison.value⟩ ∧
          criterion.complement.satisfiedBy registry config entity document =
            !criterion.satisfiedBy registry config entity document)) := by
  have complement := comparison_complement compared
  -- both criteria are decided by the tests of their comparisons, which have one value
  have made : criterion.satisfiedBy registry config entity document =
      (DocumentTest.ofComparison comparison).passes document := by
    rw [satisfiedBy, compared]
  have made' : criterion.complement.satisfiedBy registry config entity document =
      (DocumentTest.ofComparison
        ⟨comparison.target, criterion.operation.complement, comparison.value⟩).passes document := by
    rw [satisfiedBy, complement]
  obtain ⟨_, target, value, _, converted, rfl⟩ := comparison_eq_ok_iff.1 compared
  rw [made]
  refine ⟨fun null => ?_, fun one => ⟨fun missing => ?_, fun there known => ⟨complement, ?_⟩⟩⟩
  -- a membership test has a list, and null is none
  · obtain rfl : value = .null := Except.ok.inj (converted.symm.trans null)
    have single : criterion.operation.isMembership = false := by
      rw [Bool.eq_false_iff]
      intro membership
      obtain ⟨items, h⟩ := Database.exists_list_of_coerceFor membership converted
      cases h
    exact Comparison.passes_value_null ordinary single target document
  · exact Comparison.passes_null ordinary one missing
  · rw [made']
    exact Comparison.passes_complement ordinary one there
      (Comparison.wrapped_isOperand (Field.isOperand_of_coerceFor converted)) known

/-- A criterion for what is unlike null. -/
def unlikeNull : Criterion := ⟨"C", "Task", "a", .notLike, .null⟩

/-- The pattern of a null literal is the word `null`, and any other word is unlike it. -/
theorem satisfiedBy_nulls_unlikeNull :
    unlikeNull.operation.isNullCheck = false ∧
      ∃ comparison,
        unlikeNull.comparison Request.sharedRegistry {} "Task" = .ok comparison ∧
        comparison.target.field.coerceFor unlikeNull.operation unlikeNull.value = .ok .null ∧
        unlikeNull.satisfiedBy Request.sharedRegistry {} "Task" (.object [("a", .text "x")]) =
          true ∧
        unlikeNull.satisfiedBy Request.sharedRegistry {} "Task" (.object []) = false := by
  have compared : unlikeNull.comparison Request.sharedRegistry {} "Task" =
      .ok ⟨⟨"Task", none, ["a"], ⟨"a", .text⟩⟩, .notLike, .null⟩ := by rfl
  have null : (Field.mk "a" .text).coerceFor .notLike .null = .ok .null := rfl
  obtain ⟨pattern, _⟩ := satisfiedBy_nulls compared rfl (.object [("a", .text "x")])
  obtain ⟨_, present⟩ := satisfiedBy_nulls compared rfl (.object [])
  refine ⟨rfl, _, compared, null, (pattern null).trans ?_, ((present rfl).1 rfl).trans rfl⟩
  decide +kernel

end Criterion

end EntitySearch
