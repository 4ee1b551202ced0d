import EntitySearch.Database.Condition
import EntitySearch.Document.Test
import EntitySearch.Proofs.Documents.Order
import EntitySearch.Proofs.Outcome
import EntitySearch.Proofs.Text.Bytes
import Mathlib.Data.Option.NAry

/-!
# Where a database and the memory agree

A comparison of an attribute without a join to many entities is decided twice: in memory by a test
of the document, and in a database by a condition on the value that is read at a path. Both go by
scalars. A database value is null or a scalar (`Database.Value.ofScalar`), a document is read as the
scalar of what it holds (`Database.Value.documented_eq`), and a typed value is bound as its scalar
(`Database.Parameter.value_ofTyped`), so the order of both values is the same on either side
(`Database.order?_documented`). What is left is to go through the operations
(`Database.isTrue_ofOperation`): a database decides in three truth values, of which only one lets a
document pass, and the memory in two.

There is one exception. A NaN compares as equal to every number in memory, but it is bound as null,
and nothing compares with null. So the database decides as the memory would with null in the place
of every NaN (`TypedValue.bound`), and both agree on all comparisons without a NaN
(`Database.condition_agrees`).

`Database.Value.documented` is how a database is documented to read a document. The engine differs
from it where it reads a numeral as a neighbour of the nearest double, and where a name in the
document has a NUL in it; `Database.ReadsAsDocumented` says that it does not.
-/

namespace EntitySearch

/-! ### Values without NaN -/

namespace TypedValue

/-- Whether a value is a NaN. -/
def isNaN : TypedValue → Bool
  | double .nan => true
  | _ => false

/-- Whether a value is a NaN or a list with one. -/
def hasNaN : TypedValue → Bool
  | list items => items.any isNaN
  | value => value.isNaN

/-- Null for a NaN, and any other value as it is. -/
def withoutNaN (value : TypedValue) : TypedValue := if value.isNaN then null else value

/-- **A value as a database is given it**, with null in the place of every NaN. -/
def bound : TypedValue → TypedValue
  | list items => list (items.map withoutNaN)
  | value => value.withoutNaN

theorem withoutNaN_eq {value : TypedValue} (h : value.isNaN = false) :
    value.withoutNaN = value := by
  rw [withoutNaN, h]
  rfl

/-- A value without a NaN is bound as it is. -/
theorem bound_eq {value : TypedValue} (h : value.hasNaN = false) : value.bound = value := by
  cases value with
  | list items =>
    have each : ∀ item ∈ items, item.withoutNaN = item := fun item mem =>
      withoutNaN_eq (Bool.eq_false_iff.2 (List.any_eq_false.1 h item mem))
    rw [bound, List.map_congr_left each, List.map_id']
  | _ => exact withoutNaN_eq h

end TypedValue

/-- A decimal becomes a number. -/
theorem Decimal.toDouble_ne_nan (d : Decimal) : d.toDouble ≠ .nan := by
  rw [toDouble]
  split
  · exact Double.ofRatio_ne_nan _ _ _
  · dsimp only
    split
    · exact Double.ofUnits_ne_nan _ _
    · exact Double.ofUnits_ne_nan _ _

/-- The scalar of a typed value without NaN is no NaN. -/
theorem TypedValue.isOrdered_of_withoutNaN {value : TypedValue} {scalar : Scalar}
    (h : value.withoutNaN.scalar? = some scalar) : scalar.IsOrdered := by
  cases value with
  | null | list items => cases h
  | double x =>
    cases x with
    -- a NaN was replaced by null, which has no scalar
    | nan => cases h
    | infinite negative | finite negative units =>
      obtain rfl := Option.some.inj h
      exact Double.noConfusion
  | decimal d =>
    obtain rfl := Option.some.inj h
    exact d.toDouble_ne_nan
  | bool value | integer value | long value | text value | uuid value | date value
  | dateTime value | constant value =>
    obtain rfl := Option.some.inj h
    trivial

/-! ### Values in memory -/

namespace Json

variable {found : Json} {value : TypedValue}

theorem orderTyped?_eq (found : Json) (value : TypedValue) :
    found.orderTyped? value = Option.map₂ Scalar.order found.scalar? value.scalar? := by
  rw [orderTyped?]
  cases found.scalar? with
  | none => rfl
  | some a => cases value.scalar? <;> rfl

/-- What compares with anything is not null. -/
theorem isSome_scalar?_of_orderTyped? {order : Ordering}
    (h : found.orderTyped? value = some order) : found.scalar?.isSome := by
  rw [orderTyped?_eq] at h
  obtain ⟨a, _, stored, _, _⟩ := Option.map₂_eq_some_iff.1 h
  exact Option.isSome_of_mem stored

/-- In a comparison only a NaN is bound as something else. A list compares with nothing. -/
theorem orderTyped?_bound (found : Json) (value : TypedValue) :
    found.orderTyped? value.bound = found.orderTyped? value.withoutNaN := by
  cases value with
  | list items =>
    rw [orderTyped?_eq, orderTyped?_eq]
    rfl
  | _ => rfl

end Json

namespace DocumentTest

variable {found : Json} {items : List TypedValue}

/-- Nothing is null among what is one of a list. -/
theorem membership_isOneOf : membership isOneOf found (.list items) = isOneOf found items := by
  refine Bool.and_eq_right_iff_imp.2 fun h => ?_
  obtain ⟨item, _, same⟩ := List.any_eq_true.1 h
  exact Json.isSome_scalar?_of_orderTyped? (beq_iff_eq.1 same)

/-- Nothing is null among what is none of a list with an item in it. -/
theorem membership_isNoneOf (nonempty : items ≠ []) :
    membership isNoneOf found (.list items) = isNoneOf found items := by
  refine Bool.and_eq_right_iff_imp.2 fun h => ?_
  obtain ⟨item, mem⟩ := List.exists_mem_of_ne_nil items nonempty
  have other := List.all_eq_true.1 h item mem
  cases compared : found.orderTyped? item with
  | none =>
    rw [compared] at other
    cases other
  | some order => exact Json.isSome_scalar?_of_orderTyped? compared

end DocumentTest

namespace Database

/-! ### Database values as scalars -/

namespace Value

/-- **The database value of a scalar**, or null. -/
def ofScalar : Option Scalar → Value
  | none => null
  | some (.integer n) => integer n
  | some (.real x) => real x
  | some (.text s) => ofString s

/-- **The value that a database is documented to read** where a document holds a JSON value, or none
at all. -/
def documented : Option Json → Value
  | none | some .null => null
  | some (.bool value) => integer (if value then 1 else 0)
  | some (.int n) => if Number.isInt64 n then integer n else real (Double.ofInt n)
  | some (.real x) => real x
  | some (.text value) => ofString value
  | some value => ofString value.compact

theorem documented_eq (path : List String) (document : Json) :
    documented (document.at? path) =
      ofScalar (DocumentTest.valueAt path document).scalar? := by
  rw [DocumentTest.valueAt]
  cases document.at? path with
  | none => rfl
  | some value =>
    cases value with
    | int n =>
      change (if Number.isInt64 n then integer n else real (Double.ofInt n)) =
        ofScalar (some (if Number.isInt64 n then .integer n else .real (Double.ofInt n)))
      split <;> rfl
    | _ => rfl

/-- **Database values compare as their scalars do.** -/
theorem order?_ofScalar {a b : Option Scalar} (ordered : ∀ x, a = some x → x.IsOrdered)
    (ordered' : ∀ y, b = some y → y.IsOrdered) :
    (ofScalar a).order? (ofScalar b) = Option.map₂ Scalar.order a b := by
  cases a with
  -- null compares with nothing on either side
  | none => rfl
  | some x =>
    have orderedx := ordered x rfl
    cases b with
    | none => cases x <;> rfl
    | some y =>
      have orderedy := ordered' y rfl
      cases x with
      | integer m =>
        cases y with
        | integer n | text t => rfl
        | real y =>
          -- a NaN would count as equal in memory, but here is none
          change y.orderInt m = some ((y.orderInt m).getD .eq)
          rw [Double.orderInt_eq_compare m orderedy, Option.getD_some]
      | real x =>
        cases y with
        | text t => rfl
        | integer n =>
          -- turned around, the same comparison of an integer with a double
          change (x.orderInt n).map Ordering.swap = some ((x.orderInt n).getD .eq).swap
          rw [Double.orderInt_eq_compare n orderedx, Option.getD_some, Option.map_some]
        | real y =>
          change x.order y = some ((x.order y).getD .eq)
          rw [Double.order_eq_compare orderedx orderedy, Option.getD_some]
      | text s =>
        cases y with
        | integer n | real y => rfl
        | text t => exact congrArg some (Text.compare_strings s t)

end Value

/-- **A typed value is bound as its scalar**, and a NaN as null. -/
theorem Parameter.value_ofTyped (value : TypedValue) :
    (Parameter.ofTyped value).value = Value.ofScalar value.withoutNaN.scalar? := by
  cases value with
  | double x => cases x <;> rfl
  | decimal d =>
    -- a decimal is bound as the double next to it, which is a number
    have number := d.toDouble_ne_nan
    change (Parameter.real d.toDouble).value = Value.real d.toDouble
    cases h : d.toDouble with
    | nan => exact absurd h number
    | infinite negative => rfl
    | finite negative units => rfl
  | _ => rfl

/-- **A stored value and a typed value compare alike** in a database and in memory, but a NaN counts
as null in a database. -/
theorem order?_documented {document : Json} (finite : document.isFinite) (path : List String)
    (value : TypedValue) :
    (Value.documented (document.at? path)).order? (Parameter.ofTyped value).value =
      (DocumentTest.valueAt path document).orderTyped? value.withoutNaN := by
  rw [Value.documented_eq, Parameter.value_ofTyped, Json.orderTyped?_eq, Value.order?_ofScalar]
  · intro x found
    exact Json.isOrdered_of_isFinite (Json.isFinite_getD_at? finite) found
  · exact fun y found => TypedValue.isOrdered_of_withoutNaN found

/-! ### Membership -/

namespace Test

variable {value : Value} {items : List Parameter}

/-- A value is one of a list when it compares as equal to some item. -/
theorem memberTruth_eq_true :
    memberTruth value items = some true ↔ ∃ item ∈ items, value.order? item.value = some .eq := by
  rw [memberTruth]
  split
  · next found => simpa using found
  · next missing =>
    have missing : ¬ ∃ item ∈ items, value.order? item.value = some .eq := by simpa using missing
    simp only [missing, iff_false]
    split <;> simp

/-- A value is none of a list when it compares as different from every item, with null as no item.
-/
theorem memberTruth_eq_false :
    memberTruth value items = some false ↔
      ∀ item ∈ items, ∃ order, value.order? item.value = some order ∧ order ≠ .eq := by
  rw [memberTruth]
  split
  · next found =>
    -- an item that is equal makes the test true
    obtain ⟨item, mem, same⟩ : ∃ item ∈ items, value.order? item.value = some .eq := by
      simpa using found
    refine iff_of_false (by simp) fun all => ?_
    obtain ⟨order, compared, other⟩ := all item mem
    exact other (Option.some.inj (compared.symm.trans same))
  · next missing =>
    have missing : ∀ item ∈ items, value.order? item.value ≠ some .eq := by simpa using missing
    split
    · next unknown =>
      -- an item that compares with nothing makes the test unknown, and it has no order
      obtain ⟨item, mem, null⟩ : ∃ item ∈ items, value.order? item.value = none := by
        simpa using unknown
      refine iff_of_false (by simp) fun all => ?_
      obtain ⟨order, compared, _⟩ := all item mem
      cases compared.symm.trans null
    · next known =>
      -- nothing is equal and nothing unknown, so every item compares as something else
      have known : ∀ item ∈ items, value.order? item.value ≠ none := by simpa using known
      refine iff_of_true rfl fun item mem => ?_
      obtain ⟨order, compared⟩ := Option.ne_none_iff_exists'.1 (known item mem)
      exact ⟨order, compared, fun same => missing item mem (same ▸ compared)⟩

end Test

/-! ### Conditions -/

/-- **Whether a condition is true** when this value is read at its path. Conditions on relations
look at more than one value. -/
def Condition.isTrueAt (value : Value) : Condition → Bool
  | always => true
  | never => false
  | direct _ test => test.truth value == some true
  | related .. => false

/-- **An engine reads a document as documented** at a path. -/
def ReadsAsDocumented (document : Json) (path : List String) : Prop :=
  Value.ofJson (found? path document) = Value.documented (document.at? path)

section Agreement

variable {document : Json} {path : List String}

/-- A membership test is true where the memory finds the value in the list as it is bound. -/
theorem memberTruth_documented_true (finite : document.isFinite) (items : List TypedValue) :
    Test.memberTruth (Value.documented (document.at? path)) (items.map Parameter.ofTyped) =
        some true ↔
      DocumentTest.isOneOf (DocumentTest.valueAt path document)
        (items.map TypedValue.withoutNaN) := by
  rw [Test.memberTruth_eq_true, DocumentTest.isOneOf, List.any_map, List.any_eq_true]
  simp only [List.mem_map, exists_exists_and_eq_and]
  refine exists_congr fun item => and_congr_right fun _ => ?_
  rw [order?_documented finite, Function.comp_apply, beq_iff_eq]

/-- A membership test is false where the memory finds that the value is none of the items. -/
theorem memberTruth_documented_false (finite : document.isFinite) (items : List TypedValue) :
    Test.memberTruth (Value.documented (document.at? path)) (items.map Parameter.ofTyped) =
        some false ↔
      DocumentTest.isNoneOf (DocumentTest.valueAt path document)
        (items.map TypedValue.withoutNaN) := by
  rw [Test.memberTruth_eq_false, List.forall_mem_map, DocumentTest.isNoneOf, List.all_map,
    List.all_eq_true]
  refine forall_congr' fun item => forall_congr' fun _ => ?_
  rw [order?_documented finite, Function.comp_apply]
  cases (DocumentTest.valueAt path document).orderTyped? item.withoutNaN with
  | none => simp
  | some order => simp

/-- A database reads null exactly where the memory finds no scalar. -/
theorem documented_eq_null_iff :
    Value.documented (document.at? path) = .null ↔
      (DocumentTest.valueAt path document).scalar? = none := by
  rw [Value.documented_eq]
  cases (DocumentTest.valueAt path document).scalar? with
  | none => exact iff_of_true rfl rfl
  | some scalar => cases scalar <;> exact iff_of_false Value.noConfusion (Option.some_ne_none _)

/-- A comparison is true exactly when the values compare in the order that it asks for. -/
theorem isTrue_compare (finite : document.isFinite) (operation : Operation) (value : TypedValue) :
    ((if value.isNull then none else some (Test.compare operation (Parameter.ofTyped value))).any
        fun test => test.truth (Value.documented (document.at? path)) == some true) =
      match (DocumentTest.valueAt path document).orderTyped? value.bound with
      | some order => operation.holdsOf order
      | none => false := by
  rw [Json.orderTyped?_bound, ← order?_documented finite]
  split
  · next null =>
    -- no test is made for a null literal, and nothing compares with it in memory
    cases value with
    | null => cases Value.documented (document.at? path) <;> rfl
    | _ => cases null
  · -- the truth value is unknown where nothing compares, and unknown is not true
    rw [Option.any_some, Test.truth]
    cases (Value.documented (document.at? path)).order? (Parameter.ofTyped value).value with
    | none => rfl
    | some order => cases h : operation.holdsOf order <;> simp [h]

/-- **A test is true exactly when its operation holds in memory** of the value as it is bound. A
pattern is another matter, and so is a membership test with an empty list. -/
theorem isTrue_ofOperation (finite : document.isFinite) {operation : Operation} {value : TypedValue}
    (ordinary : operation.isPattern = false)
    (listed : operation.isMembership → ∃ items, items ≠ [] ∧ value = .list items) :
    ((Test.ofOperation operation value).any fun test =>
        test.truth (Value.documented (document.at? path)) == some true) =
      DocumentTest.holds operation value.bound (DocumentTest.valueAt path document) := by
  cases operation with
  | like | notLike => cases ordinary
  | isNull =>
    rw [Bool.eq_iff_iff]
    simp only [Test.ofOperation, Test.truth, Option.any_some, beq_iff_eq, Option.some.injEq,
      documented_eq_null_iff, DocumentTest.holds, Option.isNone_iff_eq_none]
  | isNotNull =>
    rw [Bool.eq_iff_iff]
    simp only [Test.ofOperation, Test.truth, Option.any_some, beq_iff_eq, Option.some.injEq,
      bne_iff_ne, ne_eq, documented_eq_null_iff, DocumentTest.holds, Option.isSome_iff_ne_none]
  | oneOf =>
    -- the list is bound with null in the place of every NaN
    obtain ⟨items, nonempty, rfl⟩ := listed rfl
    rw [Bool.eq_iff_iff, DocumentTest.holds, TypedValue.bound, DocumentTest.membership_isOneOf,
      ← memberTruth_documented_true finite]
    simp [Test.ofOperation, Test.truth, Test.negatedIf]
  | noneOf =>
    obtain ⟨items, nonempty, rfl⟩ := listed rfl
    rw [Bool.eq_iff_iff, DocumentTest.holds, TypedValue.bound, DocumentTest.membership_isNoneOf,
      ← memberTruth_documented_false finite]
    · simp [Test.ofOperation, Test.truth, Test.negatedIf]
    · -- binding keeps the number of items
      exact fun h => nonempty (List.map_eq_nil_iff.1 h)
  | equals | notEquals | greater | greaterEqual | less | lessEqual =>
    exact isTrue_compare finite _ value

/-! ### Comparisons -/

variable {target : Attribute} {operation : Operation} {value : TypedValue}

/-- For a membership test the elements of a literal are converted one by one. -/
theorem elements_of_coerceFor {field : Field} {literal : Literal}
    (membership : operation.isMembership)
    (coerced : field.coerceFor operation literal = .ok value) :
    ∃ items, (Field.elements literal).mapM field.coerce = .ok items ∧ value = .list items := by
  rw [Field.coerceFor, Operation.isNullCheck_of_isMembership membership, membership] at coerced
  split at coerced
  · next h => cases h
  · split at coerced
    · cases coerced
    · obtain ⟨items, converted, h⟩ := Outcome.bind_eq_ok_iff.1 coerced
      exact ⟨items, converted, (Except.ok.inj h).symm⟩

/-- What is converted for a membership test is a list. -/
theorem exists_list_of_coerceFor {field : Field} {literal : Literal}
    (membership : operation.isMembership)
    (coerced : field.coerceFor operation literal = .ok value) : ∃ items, value = .list items := by
  obtain ⟨items, _, h⟩ := elements_of_coerceFor membership coerced
  exact ⟨items, h⟩

/-- The condition of a comparison is its test at the path of the attribute, if it has a test. -/
theorem ofComparison_eq_direct (single : target.manyJoin? = none)
    (nonempty : operation.isMembership → value ≠ .list []) :
    Condition.ofComparison ⟨target, operation, value⟩ =
      (Test.ofOperation operation value).elim .never (.direct target.documentPath) := by
  -- the two cases for the empty list come first, and they are excluded
  unfold Condition.ofComparison
  split
  · next one empty =>
    obtain rfl : operation = .oneOf := one
    exact absurd empty (nonempty rfl)
  · next none empty =>
    obtain rfl : operation = .noneOf := none
    exact absurd empty (nonempty rfl)
  · dsimp only
    rw [single]
    cases Test.ofOperation operation value <;> rfl

/-- A test in memory looks at the value at the path of the attribute, except for the one for not
being in an empty list. -/
theorem passes_ofComparison (single : target.manyJoin? = none)
    (ordinary : operation.isPattern = false) :
    (DocumentTest.ofComparison ⟨target, operation, value⟩).passes document =
      ((operation = .noneOf && DocumentTest.isEmptyList value) ||
        DocumentTest.holds operation value
          (DocumentTest.valueAt target.documentPath document)) := by
  have place : target.place = ⟨none, target.documentPath⟩ := by rw [Attribute.place, single]
  rw [DocumentTest.ofComparison, ordinary, place]
  change (if _ then true else [_].any _) = _
  rw [List.any_cons, List.any_nil, Bool.or_false]
  cases (decide (operation = .noneOf) && DocumentTest.isEmptyList value) <;> rfl

/-- A test for a pattern looks at the value at the path of the attribute. -/
theorem passes_ofPattern (single : target.manyJoin? = none) (pattern : operation.isPattern) :
    (DocumentTest.ofComparison ⟨target, operation, value⟩).passes document =
      DocumentTest.fits value.patternText (operation == .notLike)
        (DocumentTest.valueAt target.documentPath document) := by
  have place : target.place = ⟨none, target.documentPath⟩ := by rw [Attribute.place, single]
  rw [DocumentTest.ofComparison, if_pos pattern, place]
  change [_].any _ = _
  rw [List.any_cons, List.any_nil, Bool.or_false]

/-- A test for not being in a list looks for the value if the list has an item in it. -/
theorem noneOf_and_isEmptyList_bound
    (listed : operation.isMembership → ∃ items, items ≠ [] ∧ value = .list items) :
    (operation = .noneOf && DocumentTest.isEmptyList value.bound) = false := by
  cases operation with
  | noneOf =>
    obtain ⟨items, nonempty, rfl⟩ := listed rfl
    cases items with
    | nil => exact absurd rfl nonempty
    | cons item items => rfl
  | _ => rfl

/-- **A condition is true exactly when the test in memory passes** for the value as it is bound. -/
theorem isTrueAt_ofComparison (finite : document.isFinite) (single : target.manyJoin? = none)
    (ordinary : operation.isPattern = false)
    (listed : operation.isMembership → ∃ items, value = .list items) :
    (Condition.ofComparison ⟨target, operation, value⟩).isTrueAt
        (Value.documented (document.at? target.documentPath)) =
      (DocumentTest.ofComparison ⟨target, operation, value.bound⟩).passes document := by
  rw [passes_ofComparison single ordinary]
  by_cases empty : operation.isMembership ∧ value = .list []
  · -- an empty list makes a constant of the condition, so nothing is read on either side
    obtain ⟨member, rfl⟩ := empty
    cases operation with
    | oneOf => exact (Bool.and_false _).symm
    | noneOf => rfl
    | _ => cases member
  · -- with an item in the list, and with every other operation, there is a test on both sides
    have listed (member : operation.isMembership) :
        ∃ items, items ≠ [] ∧ value = .list items := by
      obtain ⟨items, rfl⟩ := listed member
      exact ⟨items, fun h => empty ⟨member, h ▸ rfl⟩, rfl⟩
    rw [ofComparison_eq_direct single fun member h => empty ⟨member, h⟩,
      noneOf_and_isEmptyList_bound listed, Bool.false_or,
      ← isTrue_ofOperation finite ordinary listed]
    cases Test.ofOperation operation value <;> rfl

/-- Only a pattern can be too long. -/
theorem isTooLong_ofOperation {test : Test} (ordinary : operation.isPattern = false)
    (h : Test.ofOperation operation value = some test) : test.isTooLong = false := by
  cases operation with
  | like | notLike => cases ordinary
  | isNull | isNotNull | oneOf | noneOf =>
    obtain rfl := Option.some.inj h
    rfl
  | equals | notEquals | greater | greaterEqual | less | lessEqual =>
    obtain ⟨_, h⟩ := (Option.ite_none_left_eq_some).1 h
    obtain rfl := Option.some.inj h
    rfl

/-- An engine that reads the document as documented decides as the condition says. -/
theorem holds_ofComparison (single : target.manyJoin? = none)
    (ordinary : operation.isPattern = false)
    (reads : ReadsAsDocumented document target.documentPath) :
    (Condition.ofComparison ⟨target, operation, value⟩).holds document =
      .ok ((Condition.ofComparison ⟨target, operation, value⟩).isTrueAt
        (Value.documented (document.at? target.documentPath))) := by
  by_cases empty : operation.isMembership ∧ value = .list []
  · -- an empty list makes a constant, which needs no reading
    obtain ⟨member, rfl⟩ := empty
    cases operation with
    | oneOf | noneOf => rfl
    | _ => cases member
  · rw [ofComparison_eq_direct single fun member h => empty ⟨member, h⟩]
    cases found : Test.ofOperation operation value with
    | none => rfl
    | some test =>
      change test.passes _ = .ok (test.truth _ == some true)
      -- what is read is what is documented, and only a pattern could be refused
      rw [reads, Test.passes, isTooLong_ofOperation ordinary found]
      rfl

end Agreement

/-- **A database decides a comparison as the memory does**, with null in the place of every NaN in
its value. So both agree on a value without a NaN, however the document is made up. An engine that
reads the document as documented decides so without a failure. -/
theorem condition_agrees {document : Json} {target : Attribute} {operation : Operation}
    {literal : Literal} {value : TypedValue} (finite : document.isFinite)
    (single : target.manyJoin? = none) (ordinary : operation.isPattern = false)
    (coerced : target.field.coerceFor operation literal = .ok value) :
    (Condition.ofComparison ⟨target, operation, value⟩).isTrueAt
        (Value.documented (document.at? target.documentPath)) =
      (DocumentTest.ofComparison ⟨target, operation, value.bound⟩).passes document ∧
    (value.hasNaN = false →
      (Condition.ofComparison ⟨target, operation, value⟩).isTrueAt
          (Value.documented (document.at? target.documentPath)) =
        (DocumentTest.ofComparison ⟨target, operation, value⟩).passes document) ∧
    (ReadsAsDocumented document target.documentPath →
      (Condition.ofComparison ⟨target, operation, value⟩).holds document =
        .ok ((Condition.ofComparison ⟨target, operation, value⟩).isTrueAt
          (Value.documented (document.at? target.documentPath)))) := by
  have agrees := isTrueAt_ofComparison finite single ordinary
    fun member => exists_list_of_coerceFor member coerced
  refine ⟨agrees, fun number => ?_, holds_ofComparison single ordinary⟩
  -- a value without NaN is bound as it is
  rw [agrees, TypedValue.bound_eq number]

/-- A field that holds doubles. -/
def ratioField : Attribute := ⟨"Sample", none, ["f"], ⟨"f", .double⟩⟩

/-- A document with the number one in that field. -/
def oneSample : Json := .object [("f", .int 1)]

/-- The number one is equal to a NaN in memory, but not in a database. -/
theorem condition_agrees_ratio :
    ratioField.field.coerceFor .equals (.text "nan") = .ok (.double .nan) ∧
      (DocumentTest.ofComparison ⟨ratioField, .equals, .double .nan⟩).passes oneSample = true ∧
      (Condition.ofComparison ⟨ratioField, .equals, .double .nan⟩).isTrueAt
        (Value.documented (oneSample.at? ratioField.documentPath)) = false ∧
      (Condition.ofComparison ⟨ratioField, .equals, .double .nan⟩).holds oneSample = .ok false := by
  have coerced : ratioField.field.coerceFor .equals (.text "nan") = .ok (.double .nan) := by cbv
  have finite : oneSample.isFinite := rfl
  obtain ⟨agrees, _, runs⟩ := condition_agrees finite rfl rfl coerced
  have bound :
      (DocumentTest.ofComparison ⟨ratioField, .equals, TypedValue.bound (.double .nan)⟩).passes
        oneSample = false := rfl
  exact ⟨coerced, rfl, agrees.trans bound, (runs rfl).trans (congrArg _ (agrees.trans bound))⟩

end Database

end EntitySearch
