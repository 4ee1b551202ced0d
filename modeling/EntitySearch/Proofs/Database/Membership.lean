import EntitySearch.Proofs.Database.Relations

/-!
# Conditions on lists in a database

A database has a test for a list beside the tests for a single value. A value is one of a list where
it is equal to some item (`Test.isTrueFor_oneOf`), and none of it where it is different from all of
them (`Test.isTrueFor_noneOf`). A null in the list makes it unknown that a value is none of it, as
it does the comparison with null.

What is true of the test of a value holds for the whole condition. Without a relation to many
entities there is one value to test. Behind such a relation the values of the elements are tested in
their order, up to the first one that passes, and an engine stops with a failure at an element that
it cannot read (`someElement_eq_true_iff`).
-/

namespace EntitySearch

namespace Database

/-! ### Tests for a list -/

/-- Whether the test of an operation is true of a value that is read; a comparison with null has no
test. -/
def Test.isTrueFor (operation : Operation) (value : TypedValue) (found : Value) : Bool :=
  (Test.ofOperation operation value).any fun test => test.truth found == some true

section Tests

variable {found : Value} {item : TypedValue} {items : List TypedValue}

/-- **A comparison is true** of a value when both compare in an order that the operation asks for.
With null nothing compares, and so the missing test is no exception. -/
theorem Test.isTrue_compare (operation : Operation) (item : TypedValue) (found : Value) :
    ((if item.isNull then none else some (compare operation (Parameter.ofTyped item))).any
        fun test => test.truth found == some true) =
      (found.order? (Parameter.ofTyped item).value).any operation.holdsOf := by
  split
  · next null =>
    -- for null there is no test, and nothing would be in order with it
    have unknown : found.order? (Parameter.ofTyped item).value = none := by
      cases item with
      | null => cases found <;> rfl
      | _ => cases null
    rw [unknown]
    rfl
  · show ((found.order? (Parameter.ofTyped item).value).map operation.holdsOf == some true) = _
    cases found.order? (Parameter.ofTyped item).value with
    | none => rfl
    | some order => cases holds : operation.holdsOf order <;> simp [holds]

theorem Test.isTrueFor_equals :
    isTrueFor .equals item found = true ↔
      found.order? (Parameter.ofTyped item).value = some .eq := by
  rw [show isTrueFor .equals item found = _ from isTrue_compare .equals item found]
  cases found.order? (Parameter.ofTyped item).value with
  | none => exact iff_of_false Bool.false_ne_true nofun
  | some order => simp [Operation.holdsOf]

theorem Test.isTrueFor_notEquals :
    isTrueFor .notEquals item found = true ↔
      ∃ order, found.order? (Parameter.ofTyped item).value = some order ∧ order ≠ .eq := by
  rw [show isTrueFor .notEquals item found = _ from isTrue_compare .notEquals item found]
  cases found.order? (Parameter.ofTyped item).value with
  | none => exact iff_of_false Bool.false_ne_true fun ⟨_, compared, _⟩ => nomatch compared
  | some order => simp [Operation.holdsOf]

/-- **A value is one of a list** in a database when it is equal to some item. -/
theorem Test.isTrueFor_oneOf :
    isTrueFor .oneOf (.list items) found = true ↔
      ∃ item ∈ items, isTrueFor .equals item found = true := by
  have truth : isTrueFor .oneOf (.list items) found = true ↔
      memberTruth found (items.map Parameter.ofTyped) = some true := by
    simp [isTrueFor, ofOperation, Test.truth, negatedIf]
  rw [truth, memberTruth_eq_true]
  simp only [List.mem_map, exists_exists_and_eq_and, isTrueFor_equals]

/-- **A value is none of a list** in a database when it is different from all items. -/
theorem Test.isTrueFor_noneOf :
    isTrueFor .noneOf (.list items) found = true ↔
      ∀ item ∈ items, isTrueFor .notEquals item found = true := by
  have truth : isTrueFor .noneOf (.list items) found = true ↔
      memberTruth found (items.map Parameter.ofTyped) = some false := by
    simp [isTrueFor, ofOperation, Test.truth, negatedIf]
  rw [truth, memberTruth_eq_false, List.forall_mem_map]
  simp only [isTrueFor_notEquals]

end Tests

/-! ### Conditions for a list -/

section Conditions

variable {document : Json} {target : Attribute} {join : Join} {operation : Operation}
  {value : TypedValue} (nonempty : operation.isMembership → value ≠ .list [])

include nonempty

/-- **Without a relation to many entities** a condition is true where its test is. -/
theorem isTrueOf_direct (single : target.manyJoin? = none) :
    (Condition.ofComparison ⟨target, operation, value⟩).isTrueOf document =
      Test.isTrueFor operation value (Value.documented (document.at? target.documentPath)) := by
  rw [ofComparison_eq_direct single nonempty, Test.isTrueFor]
  cases Test.ofOperation operation value <;> rfl

/-- Without a relation to many entities an engine decides a condition by its test of the value that
it reads. -/
theorem holds_direct (single : target.manyJoin? = none) (plain : operation.isPattern = false) :
    (Condition.ofComparison ⟨target, operation, value⟩).holds document =
      .ok (Test.isTrueFor operation value
        (Value.ofJson (found? target.documentPath document))) := by
  rw [ofComparison_eq_direct single nonempty, Test.isTrueFor]
  cases made : Test.ofOperation operation value with
  | none => rfl
  | some test =>
    show test.passes _ = _
    rw [Test.passes, isTooLong_ofOperation plain made]
    rfl

/-- **Behind a relation to many entities** a condition is true where the test is for some element.
-/
theorem isTrueOf_elements (joined : target.manyJoin? = some join) :
    (Condition.ofComparison ⟨target, operation, value⟩).isTrueOf document =
      (documentedElements join.relation document).any fun element =>
        Test.isTrueFor operation value (Value.documented (element.at? target.path)) := by
  rw [ofComparison_eq_related joined nonempty]
  rfl

omit nonempty in
/-- **A search for an element comes to an end without a failure** at the first element that passes,
if every element in front of it can be read. -/
theorem someElement_eq_true_iff {path : List String} {test : Test} {elements : List Json}
    (short : test.isTooLong = false) :
    Condition.someElement path test elements = .ok true ↔
      ∃ front element behind found, elements = front ++ element :: behind ∧
        (∀ other ∈ front, ∃ read, Condition.elementValue path other = .ok read) ∧
        Condition.elementValue path element = .ok found ∧ test.truth found = some true := by
  induction elements with
  | nil =>
    refine iff_of_false (fun done => ?_) ?_
    · cases done
    · rintro ⟨front, element, behind, found, split, -⟩
      exact List.append_ne_nil_of_right_ne_nil front (List.cons_ne_nil element behind) split.symm
  | cons first rest ih =>
    cases read : Condition.elementValue path first with
    | error fault =>
      -- an element that cannot be read stands in front of all others
      rw [Condition.someElement, read]
      refine iff_of_false (fun failed => ?_) ?_
      · cases failed
      · rintro ⟨front, element, behind, found, split, readable, value, -⟩
        cases front with
        | nil =>
          obtain ⟨rfl, -⟩ := List.cons.inj split
          cases read.symm.trans value
        | cons other front =>
          obtain ⟨rfl, -⟩ := List.cons.inj split
          obtain ⟨_, value⟩ := readable first List.mem_cons_self
          cases read.symm.trans value
    | ok found =>
      rw [someElement_cons short read]
      by_cases passed : test.truth found = some true
      · -- the first element passes, so nothing behind it is read
        rw [if_pos passed]
        refine iff_of_true rfl ⟨[], first, rest, found, rfl, fun _ mem => ?_, read, passed⟩
        cases mem
      · -- the first element does not pass, so the one that does is behind it
        rw [if_neg passed, ih]
        constructor
        · rintro ⟨front, element, behind, value, rfl, readable, there⟩
          exact ⟨first :: front, element, behind, value, rfl,
            List.forall_mem_cons.2 ⟨⟨found, read⟩, readable⟩, there⟩
        · rintro ⟨front, element, behind, value, split, readable, there, passes⟩
          cases front with
          | nil =>
            -- the element that passes would be the first one, which does not
            obtain ⟨rfl, -⟩ := List.cons.inj split
            obtain rfl := Except.ok.inj (read.symm.trans there)
            exact absurd passes passed
          | cons _ front =>
            obtain ⟨-, rfl⟩ := List.cons.inj split
            exact ⟨front, element, behind, value, rfl, (List.forall_mem_cons.1 readable).2, there,
              passes⟩

/-- An engine finds an element of a relation to many entities where the condition is true for it. -/
theorem holds_elements_iff (joined : target.manyJoin? = some join)
    (plain : operation.isPattern = false) :
    (Condition.ofComparison ⟨target, operation, value⟩).holds document = .ok true ↔
      ∃ front element behind found,
        Condition.elements join.relation document = front ++ element :: behind ∧
        (∀ other ∈ front, ∃ read, Condition.elementValue target.path other = .ok read) ∧
        Condition.elementValue target.path element = .ok found ∧
        Test.isTrueFor operation value found = true := by
  -- the condition is a search for an element, with the test that the operation makes
  rw [ofComparison_eq_related joined nonempty]
  unfold Test.isTrueFor
  cases made : Test.ofOperation operation value with
  | none =>
    -- without a test no element passes, for it would have to be compared with null
    refine iff_of_false nofun ?_
    rintro ⟨_, _, _, _, _, _, _, passed⟩
    cases passed
  | some test =>
    show Condition.someElement target.path test _ = .ok true ↔ _
    rw [someElement_eq_true_iff (isTooLong_ofOperation plain made)]
    simp only [Option.any_some, beq_iff_eq]

end Conditions

end Database

end EntitySearch
