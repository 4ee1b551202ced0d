import EntitySearch.Proofs.Documents.Nulls
import EntitySearch.Proofs.Numbers.Reading
import EntitySearch.Proofs.Query.Spelling

/-!
# Comparisons of integers

A stored integer is compared with an integer literal after the literal went through its text to a
value of the type of the field. Integers and longs are kept as they are, so they compare exactly. A
decimal is exact, too, but both the memory and a database compare it as the double for it, and that
is the nearest integer with 53 significant bits (`Double.orderMixed_ofInt`). So a decimal field
compares a stored integer with a neighbour of the literal if the literal has more bits than that
(`FieldType.compared`). The two sides agree on the result in all cases (`Database.BothDecide`).
-/

namespace EntitySearch

namespace Double

/-- **The nearest integer with at most 53 significant bits.** -/
def nearestWhole (n : Int) : Int := signedUnits (n < 0) (roundUnits n.natAbs 1)

/-- An integer is its own neighbour exactly when 53 significant bits hold it. -/
theorem nearestWhole_eq_iff {n : Int} : nearestWhole n = n ↔ IsExact n.natAbs := by
  -- the sign plays no part in rounding
  have magnitude : nearestWhole n = n ↔ roundUnits n.natAbs 1 = n.natAbs := by
    rw [nearestWhole, signedUnits]
    split
    · next negative =>
      have negative : n < 0 := of_decide_eq_true negative
      omega
    · next positive =>
      have positive : ¬n < 0 := fun h => positive (decide_eq_true h)
      omega
  rw [magnitude]
  constructor
  · intro same
    rw [← same]
    exact isExact_roundUnits n.natAbs 1
  · exact roundUnits_of_isExact

theorem signedUnits_mul (negative : Bool) (units k : Nat) :
    signedUnits negative (units * k) = signedUnits negative units * k := by
  rw [signedUnits, signedUnits]
  split
  · rw [Nat.cast_mul, Int.neg_mul]
  · exact Nat.cast_mul _ _

/-- **An integer compares with the double for an integer** as with its neighbour. -/
theorem orderMixed_ofInt (m : Int) {n : Int} (small : n.natAbs ≤ 2 ^ 64) :
    Scalar.orderMixed m (ofInt n) = compare m (nearestWhole n) := by
  have one : (0 : Int) < one := Int.natCast_pos.2 one_pos
  calc
    Scalar.orderMixed m (ofInt n) =
        compare (m * (Double.one : Int))
          (signedUnits (n < 0) (roundUnits n.natAbs 1 * Double.one)) := by
      rw [ofInt_eq small]
      rfl
    _ = compare (m * (Double.one : Int)) (nearestWhole n * Double.one) := by
      rw [signedUnits_mul, nearestWhole]
    _ = compare m (nearestWhole n) :=
      compare_of_strictMono (fun _ _ less => Int.mul_lt_mul_of_pos_right less one) _ _

end Double

/-- A decimal without places becomes the double for its integer. -/
theorem Decimal.toDouble_ofInt (n : Int) :
    (make (n < 0) n.natAbs 0).toDouble = Double.ofInt n := by
  -- a number below zero is not zero, so the sign is that of the number
  have sign : ((decide (n < 0) && n.natAbs != 0) && n.natAbs != 0) = decide (n < 0) := by
    rw [Bool.and_assoc, Bool.and_self, Bool.and_eq_left_iff_imp, decide_eq_true_iff, bne_iff_ne]
    omega
  rw [toDouble, if_pos (by rfl)]
  show Double.ofRatio ((decide (n < 0) && n.natAbs != 0) && n.natAbs != 0) n.natAbs 1 = _
  rw [sign, Double.ofInt]

/-! ### Literals -/

namespace FieldType

/-- The types of numbers that an integer literal is kept for. -/
def isWhole : FieldType → Bool
  | integer | long | decimal => true
  | _ => false

/-- **The integer that a literal is compared as.** -/
def compared : FieldType → Int → Int
  | decimal, n => Double.nearestWhole n
  | _, n => n

/-- Only a decimal with more than 53 significant bits is compared as another integer. -/
theorem compared_eq_iff {type : FieldType} {n : Int} :
    type.compared n = n ↔ (type = decimal → Double.IsExact n.natAbs) := by
  by_cases isDecimal : type = decimal
  · rw [isDecimal, compared, Double.nearestWhole_eq_iff]
    exact ⟨fun exact_ _ => exact_, fun exact_ => exact_ rfl⟩
  · have kept : type.compared n = n := by
      cases type with
      | decimal => exact absurd rfl isDecimal
      | _ => rfl
    exact iff_of_true kept fun h => absurd h isDecimal

theorem trim_intText (n : Int) : Text.trim (Number.intText n).toList = Number.intDigits n := by
  rw [(Query.noBlank_intText n).trim, Number.intText, String.toList_ofList]

/-- The text of an integer is read as the decimal without places. -/
theorem valueOf?_decimal {n : Int} (fits : Number.isInt64 n) :
    decimal.valueOf? (Number.intText n) = some (.decimal (Decimal.make (n < 0) n.natAbs 0)) := by
  obtain ⟨above, below⟩ := Number.isInt64_iff.1 fits
  have small : n.natAbs < Decimal.limit := by
    have range : 2 ^ 63 < Decimal.limit := by decide
    rw [Number.minInt64] at above
    rw [Number.maxInt64] at below
    omega
  rw [valueOf?, trim_intText, Decimal.read?_numeral (Number.isNumeral_intDigits n) small]
  rfl

/-- **What an integer literal becomes**, as a scalar. -/
theorem scalar?_of_valueOf? {type : FieldType} (whole : type.isWhole) {n : Int}
    (fits : Number.isInt64 n) {value : TypedValue}
    (converted : type.valueOf? (Number.intText n) = some value) :
    value.isNaN = false ∧
      value.scalar? =
        some (if type = decimal then .real (Double.ofInt n) else .integer n) := by
  -- the text of an integer is read as no other one, whatever the range
  have same {low high i : Int} (read : Number.readInt? low high (Number.intDigits n) = some i) :
      i = n := by
    obtain ⟨negative, k, numeral, valued⟩ := Number.denotes_intDigits n
    rw [Number.readInt?_numeral numeral, valued] at read
    exact (Option.some.inj (Option.eq_some_of_filter_eq_some read)).symm
  cases type with
  | integer =>
    rw [valueOf?, trim_intText] at converted
    obtain ⟨i, read, rfl⟩ := Option.map_eq_some_iff.1 converted
    obtain rfl := same read
    exact ⟨rfl, rfl⟩
  | long =>
    rw [valueOf?, trim_intText] at converted
    obtain ⟨i, read, rfl⟩ := Option.map_eq_some_iff.1 converted
    obtain rfl := same read
    exact ⟨rfl, rfl⟩
  | decimal =>
    -- a decimal keeps all digits of the integer, but its scalar is the nearest double
    obtain rfl := Option.some.inj ((valueOf?_decimal fits).symm.trans converted)
    refine ⟨rfl, ?_⟩
    show some (Scalar.real _) = _
    rw [Decimal.toDouble_ofInt, if_pos rfl]
  | _ => cases whole

end FieldType

/-- An integer literal is converted through its text. -/
theorem Field.coerce_integer (field : Field) (n : Int) :
    field.coerce (.integer n) =
      match field.type.valueOf? (Number.intText n) with
      | some value => .ok value
      | none => .error (field.conversionError (.integer n)) := rfl

/-- **A stored integer and an integer literal** compare as integers, the literal as what its type
makes of it. -/
theorem Field.orderTyped?_of_coerce {field : Field} (whole : field.type.isWhole) {m n : Int}
    (fits : Number.isInt64 m) (fits' : Number.isInt64 n) {value : TypedValue}
    (converted : field.coerce (.integer n) = .ok value) :
    value.isNaN = false ∧
      (Json.int m).orderTyped? value = some (compare m (field.type.compared n)) := by
  rw [coerce_integer] at converted
  split at converted
  · next found =>
    obtain rfl := Except.ok.inj converted
    obtain ⟨number, scalar⟩ := FieldType.scalar?_of_valueOf? whole fits' found
    refine ⟨number, ?_⟩
    -- the stored integer is a scalar of its own, so only the type of the literal decides how both
    -- compare
    have stored : (Json.int m).scalar? = some (.integer m) := by
      rw [Json.scalar?, if_pos fits]
    obtain ⟨above, below⟩ := Number.isInt64_iff.1 fits'
    rw [Number.minInt64] at above
    rw [Number.maxInt64] at below
    rw [Json.orderTyped?, stored, scalar]
    cases type : field.type with
    -- an integer and a double compare by their exact values
    | decimal => exact congrArg some (Double.orderMixed_ofInt m (by omega))
    | integer | long => rfl
    | _ =>
      rw [type] at whole
      cases whole
  · cases converted

/-! ### Both sides -/

namespace Database

/-- **Memory and database decide a comparison the same way.** -/
structure BothDecide (comparison : Comparison) (document : Json) (answer : Bool) : Prop where
  memory : (DocumentTest.ofComparison comparison).passes document = answer
  condition : (Condition.ofComparison comparison).isTrueAt
    (Value.documented (document.at? comparison.target.documentPath)) = answer
  engine : ReadsAsDocumented document comparison.target.documentPath →
    (Condition.ofComparison comparison).holds document = .ok answer

section Integers

variable {target : Attribute} {document : Json} {m : Int} {operation : Operation}
  {literal : Literal} {value : TypedValue} {answer : Bool}

/-- A database decides as the memory does, so it is enough to see what holds in memory. -/
theorem bothDecide (single : target.manyJoin? = none) (finite : document.isFinite)
    (stored : document.at? target.documentPath = some (.int m))
    (plain : operation.isPattern = false)
    (converted : target.field.coerceFor operation literal = .ok value)
    (number : value.hasNaN = false)
    (holds : DocumentTest.holds operation value (.int m) = answer) :
    BothDecide ⟨target, operation, value⟩ document answer := by
  have found : DocumentTest.valueAt target.documentPath document = .int m := by
    rw [DocumentTest.valueAt, stored]
    rfl
  have memory :
      (DocumentTest.ofComparison ⟨target, operation, value⟩).passes document = answer := by
    rw [Comparison.passes_stored single plain (found ▸ rfl), found, holds]
  obtain ⟨-, agrees, runs⟩ := condition_agrees finite single plain converted
  have condition := (agrees number).trans memory
  exact ⟨memory, condition, fun reads => (runs reads).trans (congrArg _ condition)⟩

/-- What the items of a list of integer literals are compared as. -/
def ComparedAs (m : Int) (type : FieldType) (n : Int) (item : TypedValue) : Prop :=
  item.isNaN = false ∧ (Json.int m).orderTyped? item = some (compare m (type.compared n))

/-- The literals of a list are converted one by one. -/
theorem comparedAs_of_coerceFor (whole : target.field.type.isWhole) (fits : Number.isInt64 m)
    {literals : List Int} (fits' : ∀ n ∈ literals, Number.isInt64 n)
    (member : operation.isMembership)
    (converted : target.field.coerceFor operation (.list (literals.map .integer)) = .ok value) :
    ∃ items, value = .list items ∧
      List.Forall₂ (ComparedAs m target.field.type) literals items := by
  obtain ⟨items, computed, rfl⟩ := elements_of_coerceFor member converted
  refine ⟨items, rfl, ?_⟩
  have pairs := Outcome.mapM_eq_ok_iff.1 computed
  rw [Field.elements, List.forall₂_map_left_iff] at pairs
  -- the induction is on the conversions alone
  clear computed converted
  induction pairs with
  | nil => exact List.Forall₂.nil
  | cons first _ ih =>
    obtain ⟨here, others⟩ := List.forall_mem_cons.1 fits'
    exact List.Forall₂.cons (Field.orderTyped?_of_coerce whole fits here first) (ih others)

section Lists

variable {type : FieldType} {literals : List Int} {items : List TypedValue}
  (pairs : List.Forall₂ (ComparedAs m type) literals items)

include pairs

theorem hasNaN_of_comparedAs : (TypedValue.list items).hasNaN = false := by
  rw [TypedValue.hasNaN]
  induction pairs with
  | nil => rfl
  | cons first _ ih => rw [List.any_cons, first.1, ih, Bool.or_false]

/-- A stored integer is one of a list when some literal is compared as it. -/
theorem holds_oneOf_of_comparedAs :
    DocumentTest.holds .oneOf (.list items) (.int m) =
      decide (∃ n ∈ literals, m = type.compared n) := by
  rw [DocumentTest.holds, DocumentTest.membership_isOneOf, DocumentTest.isOneOf]
  induction pairs with
  | nil => simp
  | cons first _ ih =>
    rw [List.any_cons, ih, first.2, Bool.eq_iff_iff]
    simp only [Bool.or_eq_true, beq_iff_eq, Option.some.injEq, compare_eq_iff_eq,
      decide_eq_true_eq, List.exists_mem_cons_iff]

/-- A stored integer is none of a list when no literal is compared as it. -/
theorem holds_noneOf_of_comparedAs :
    DocumentTest.holds .noneOf (.list items) (.int m) =
      decide (∀ n ∈ literals, m ≠ type.compared n) := by
  rw [DocumentTest.holds]
  show DocumentTest.isNoneOf (.int m) items = _
  rw [DocumentTest.isNoneOf]
  induction pairs with
  | nil => simp
  | cons first _ ih =>
    rw [List.all_cons, ih, first.2, Bool.eq_iff_iff]
    simp only [Bool.and_eq_true, bne_iff_ne, ne_eq, compare_eq_iff_eq, decide_eq_true_eq,
      List.forall_mem_cons]

end Lists

/-- **Integers compare exactly**, except that a decimal has its literal rounded first. A stored
integer passes a comparison with a literal exactly when the operation holds of the integer and what
the literal is compared as, and that is the literal itself unless the field is a decimal and the
literal has more than 53 significant bits. It passes a test for being in a list when it is one of
the integers that the literals are compared as, and one for not being in it when it is none. -/
theorem integers_compare (whole : target.field.type.isWhole) (single : target.manyJoin? = none)
    (finite : document.isFinite) (stored : document.at? target.documentPath = some (.int m))
    (fits : Number.isInt64 m) :
    (∀ (operation : Operation) (n : Int) (value : TypedValue),
      operation.isNullCheck = false → operation.isMembership = false →
      operation.isPattern = false → Number.isInt64 n →
      target.field.coerceFor operation (.integer n) = .ok value →
      BothDecide ⟨target, operation, value⟩ document
        (operation.holdsOf (compare m (target.field.type.compared n)))) ∧
    (∀ (literals : List Int) (value : TypedValue), (∀ n ∈ literals, Number.isInt64 n) →
      target.field.coerceFor .oneOf (.list (literals.map .integer)) = .ok value →
      BothDecide ⟨target, .oneOf, value⟩ document
        (decide (∃ n ∈ literals, m = target.field.type.compared n))) ∧
    (∀ (literals : List Int) (value : TypedValue), (∀ n ∈ literals, Number.isInt64 n) →
      target.field.coerceFor .noneOf (.list (literals.map .integer)) = .ok value →
      BothDecide ⟨target, .noneOf, value⟩ document
        (decide (∀ n ∈ literals, m ≠ target.field.type.compared n))) ∧
    ∀ n : Int, target.field.type.compared n = n ↔
      (target.field.type = .decimal → Double.IsExact n.natAbs) := by
  refine ⟨?_, ?_, ?_, fun n => FieldType.compared_eq_iff⟩
  · intro operation n value ordinary plain pattern fits' converted
    -- an operation of comparing converts its literal by itself
    have single' : target.field.coerce (.integer n) = .ok value := by
      have scalar : target.field.type.isScalar := by
        cases type : target.field.type with
        | embedded | relation =>
          rw [type] at whole
          cases whole
        | _ => rfl
      rw [Field.coerceFor, ordinary, plain, pattern, scalar] at converted
      exact converted
    obtain ⟨number, compared⟩ := Field.orderTyped?_of_coerce whole fits fits' single'
    refine bothDecide single finite stored pattern converted ?_ ?_
    · cases value with
      | list items =>
        -- a list is not compared with an integer
        rw [Json.orderTyped?_eq] at compared
        cases compared
      | _ => exact number
    · -- the operation holds of the order in which both compare
      rw [DocumentTest.holds_eq_any ordinary plain, compared, Option.any_some]
  · intro literals value fits' converted
    -- each item is compared as the integer that its literal stands for, so membership is looked up
    -- there
    obtain ⟨items, rfl, pairs⟩ := comparedAs_of_coerceFor whole fits fits' rfl converted
    exact bothDecide single finite stored rfl converted (hasNaN_of_comparedAs pairs)
      (holds_oneOf_of_comparedAs pairs)
  · intro literals value fits' converted
    obtain ⟨items, rfl, pairs⟩ := comparedAs_of_coerceFor whole fits fits' rfl converted
    exact bothDecide single finite stored rfl converted (hasNaN_of_comparedAs pairs)
      (holds_noneOf_of_comparedAs pairs)

end Integers

/-- A field that holds decimals. -/
def amountField : Attribute := ⟨"Sample", none, ["f"], ⟨"f", .decimal⟩⟩

/-- A document with the first integer that has more than 53 significant bits. -/
def oddSample : Json := .object [("f", .int 9007199254740993)]

/-- An integer of more than 53 bits is greater than itself as a decimal, and it is in no list of
itself. -/
theorem integers_compare_amount :
    BothDecide ⟨amountField, .equals, .decimal ⟨false, 9007199254740993, 0⟩⟩ oddSample false ∧
      BothDecide ⟨amountField, .greater, .decimal ⟨false, 9007199254740993, 0⟩⟩ oddSample true ∧
      BothDecide ⟨amountField, .oneOf, .list [.decimal ⟨false, 9007199254740993, 0⟩]⟩ oddSample
        false := by
  -- the field keeps the odd integer, and comparing rounds it to the even one below
  have read : FieldType.decimal.valueOf? (Number.intText 9007199254740993) =
      some (.decimal ⟨false, 9007199254740993, 0⟩) := FieldType.valueOf?_decimal rfl
  have whole : amountField.field.type.isWhole := rfl
  have finite : oddSample.isFinite := rfl
  have stored : oddSample.at? amountField.documentPath = some (.int 9007199254740993) := rfl
  obtain ⟨single, oneOf, -⟩ := integers_compare whole rfl finite stored rfl
  have rounded : amountField.field.type.compared 9007199254740993 = 9007199254740992 := by
    decide +kernel
  have converted : amountField.field.coerce (.integer 9007199254740993) =
      .ok (.decimal ⟨false, 9007199254740993, 0⟩) := by
    rw [Field.coerce_integer]
    exact read ▸ rfl
  have listed : amountField.field.coerceFor .oneOf (.list [.integer 9007199254740993]) =
      .ok (.list [.decimal ⟨false, 9007199254740993, 0⟩]) :=
    Outcome.bind_eq_ok_iff.2
      ⟨_, Outcome.mapM_eq_ok_iff.2 (List.Forall₂.cons converted List.Forall₂.nil), rfl⟩
  have equals := single .equals 9007199254740993 _ rfl rfl rfl rfl converted
  have greater := single .greater 9007199254740993 _ rfl rfl rfl rfl converted
  have member := oneOf [9007199254740993] _ (by decide) listed
  simp only [List.mem_singleton, exists_eq_left] at member
  rw [rounded] at equals greater member
  exact ⟨equals, greater, member⟩

end Database

end EntitySearch
