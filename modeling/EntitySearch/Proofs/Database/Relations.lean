import EntitySearch.Proofs.Database.Agreement

/-!
# Relations to many entities in a database and in memory

A comparison of an attribute behind a relation to many entities holds where some related entity
passes it. In memory the related entities are the items of an array; a database walks over the
elements of the relation, and reads a relation that is null as one element that is null
(`Database.documentedElements`).

For each related entity both sides decide alike (`Database.isTrue_ofOperation`), and an element that
is null passes the test for null and no other one (`Database.isTrue_null`). So
`Database.related_agrees` has two exceptions, and no more. A relation that is null has no entity in
memory, but passes the test for null in a database. And a membership test with a single value in the
place of a list is one with the list of that value in a database (`TypedValue.askedBy`), and fails
in memory.
-/

namespace EntitySearch

namespace TypedValue

/-- A list, or the list of a single value. -/
def asList : TypedValue → TypedValue
  | list items => list items
  | single => list [single]

/-- **A value as an operation asks for it**: a membership test asks for a list. -/
def askedBy (operation : Operation) (value : TypedValue) : TypedValue :=
  if operation.isMembership then value.asList else value

variable {operation : Operation} {value : TypedValue}

/-- A list is asked for as it is. -/
theorem askedBy_eq (listed : operation.isMembership → ∃ items, value = list items) :
    value.askedBy operation = value := by
  rw [askedBy]
  split
  · next member =>
    obtain ⟨items, rfl⟩ := listed member
    rfl
  · rfl

/-- A membership test asks for a list. -/
theorem exists_askedBy (value : TypedValue) (member : operation.isMembership) :
    ∃ items, value.askedBy operation = list items := by
  rw [askedBy, if_pos member]
  cases value with
  | list items => exact ⟨items, rfl⟩
  | _ => exact ⟨_, rfl⟩

end TypedValue

namespace Database

/-! ### Elements of a relation -/

/-- **The elements that a database is documented to walk over**: the items of an array, the values
of the members of an object, or a single value, null included. -/
def documentedElements (relation : String) (document : Json) : List Json :=
  match document.member? relation with
  | some (.array items) => items
  | some (.object members) => members.map Prod.snd
  | some single => [single]
  | none => []

/-- **Whether a condition is true** of a document that is read as documented. -/
def Condition.isTrueOf (document : Json) : Condition → Bool
  | always => true
  | never => false
  | direct path test => test.truth (Value.documented (document.at? path)) == some true
  | related relation path test =>
    (documentedElements relation document).any fun element =>
      test.any fun test => test.truth (Value.documented (element.at? path)) == some true

/-- Whether a relation of a document is null. -/
def isNullRelation (relation : String) (document : Json) : Bool :=
  match document.member? relation with
  | some .null => true
  | _ => false

/-- **A relation to many entities** is missing, null, or an array of objects. -/
def HoldsEntities (relation : String) (document : Json) : Prop :=
  match document.member? relation with
  | none | some .null => True
  | some (.array items) => ∀ item ∈ items, ∃ members, item = .object members
  | some _ => False

/-- **An engine reads a relation as documented**, and the value at a path in each of its elements.
-/
structure ReadsRelation (relation : String) (path : List String) (document : Json) : Prop where
  elements : Condition.elements relation document = documentedElements relation document
  value : ∀ element ∈ documentedElements relation document,
    Condition.elementValue path element = .ok (Value.documented (element.at? path))

section Related

variable {document : Json} {target : Attribute} {join : Join} {operation : Operation}
  {value : TypedValue}

/-- The condition of a comparison searches the relation, if the comparison is not with an empty
list. -/
theorem ofComparison_eq_related (joined : target.manyJoin? = some join)
    (nonempty : operation.isMembership → value ≠ .list []) :
    Condition.ofComparison ⟨target, operation, value⟩ =
      .related join.relation target.path (Test.ofOperation operation value) := by
  unfold Condition.ofComparison
  split
  · next one empty =>
    obtain rfl : operation = .oneOf := one
    exact absurd empty (nonempty rfl)
  · next none empty =>
    obtain rfl : operation = .noneOf := none
    exact absurd empty (nonempty rfl)
  · dsimp only
    rw [joined]

/-- A database asks for the list of a single value. -/
theorem ofComparison_askedBy :
    Condition.ofComparison ⟨target, operation, value.askedBy operation⟩ =
      Condition.ofComparison ⟨target, operation, value⟩ := by
  rw [TypedValue.askedBy]
  split
  · next member =>
    cases operation with
    | oneOf | noneOf => cases value <;> rfl
    | _ => cases member
  · rfl

/-- A test in memory looks at the values of the related entities, except for the one for not being
in an empty list. -/
theorem passes_related (joined : target.manyJoin? = some join)
    (ordinary : operation.isPattern = false) :
    (DocumentTest.ofComparison ⟨target, operation, value⟩).passes document =
      ((operation = .noneOf && DocumentTest.isEmptyList value) ||
        (DocumentTest.valuesAt ⟨some join.relation, target.path⟩ document).any
          (DocumentTest.holds operation value)) := by
  have place : target.place = ⟨some join.relation, target.path⟩ := by
    rw [Attribute.place, joined]
  rw [DocumentTest.ofComparison, ordinary, place]
  change (if _ then true else _) = _
  cases (decide (operation = .noneOf) && DocumentTest.isEmptyList value) <;> rfl

/-- The values of the related entities. -/
theorem valuesAt_related (relation : String) (path : List String) (document : Json) :
    DocumentTest.valuesAt ⟨some relation, path⟩ document =
      match document.member? relation with
      | some (.array items) => items.map (DocumentTest.valueAt path)
      | some (.object members) => [DocumentTest.valueAt path (.object members)]
      | _ => [] := rfl

/-- **Null passes the test for null** and no other one. -/
theorem isTrue_null (path : List String) (ordinary : operation.isPattern = false)
    (listed : operation.isMembership → ∃ items, items ≠ [] ∧ value = .list items) :
    ((Test.ofOperation operation value).any fun test =>
        test.truth (Value.documented (Json.null.at? path)) == some true) =
      (operation == .isNull) := by
  have nothing : DocumentTest.valueAt path .null = .null := by cases path <;> rfl
  have finite : Json.null.isFinite := rfl
  rw [isTrue_ofOperation finite ordinary listed, nothing]
  cases operation with
  | like | notLike => cases ordinary
  | oneOf | noneOf =>
    obtain ⟨items, _, rfl⟩ := listed rfl
    rfl
  | _ => rfl

/-- **A search for an element is true where some related entity passes in memory**, or where the
relation is null and the test is the one for null. -/
theorem isTrueOf_related (finite : document.isFinite) (ordinary : operation.isPattern = false)
    (entities : HoldsEntities join.relation document)
    (listed : operation.isMembership → ∃ items, items ≠ [] ∧ value = .list items) :
    (Condition.related join.relation target.path (Test.ofOperation operation value)).isTrueOf
        document =
      ((DocumentTest.valuesAt ⟨some join.relation, target.path⟩ document).any
          (DocumentTest.holds operation value.bound) ||
        (operation == .isNull && isNullRelation join.relation document)) := by
  rw [HoldsEntities] at entities
  rw [Condition.isTrueOf, documentedElements, valuesAt_related, isNullRelation]
  cases found : document.member? join.relation with
  -- no relation has no elements, and it is not null
  | none => exact (Bool.and_false _).symm
  | some relation =>
    rw [found] at entities
    cases relation with
    | null =>
      -- the database walks over the null itself, the memory over nothing
      change List.any [Json.null] _ = (false || (operation == .isNull && true))
      rw [List.any_cons, List.any_nil, Bool.or_false, Bool.and_true, Bool.false_or]
      exact isTrue_null target.path ordinary listed
    | array items =>
      have there : document.at? [join.relation] = some (.array items) := by
        rw [Json.at?, found]
        rfl
      have each : ∀ item ∈ items, item.isFinite := by
        have all : Json.allFinite items := Json.isFinite_of_at? finite there
        exact fun item mem => Json.isFinite_of_mem all mem
      -- both walk over the items, and an item is tested as a document of its own
      change items.any _ = ((items.map _).any _ || (operation == .isNull && false))
      rw [Bool.and_false, Bool.or_false, List.any_map]
      rw [Bool.eq_iff_iff, List.any_eq_true, List.any_eq_true]
      refine exists_congr fun item => and_congr_right fun mem => ?_
      rw [isTrue_ofOperation (each item mem) ordinary listed]
      exact Iff.rfl
    -- the relation is no list of entities, which is assumed not to be
    | bool _ | int _ | real _ | text _ | object _ => exact entities.elim

/-- **A condition on a relation is true where the comparison holds in memory** of the value as it is
bound, or where the relation is null and null is asked for. -/
theorem isTrueOf_ofComparison (finite : document.isFinite) (joined : target.manyJoin? = some join)
    (ordinary : operation.isPattern = false) (entities : HoldsEntities join.relation document)
    (listed : operation.isMembership → ∃ items, value = .list items) :
    (Condition.ofComparison ⟨target, operation, value⟩).isTrueOf document =
      ((DocumentTest.ofComparison ⟨target, operation, value.bound⟩).passes document ||
        (operation == .isNull && isNullRelation join.relation document)) := by
  rw [passes_related joined ordinary]
  by_cases empty : operation.isMembership ∧ value = .list []
  · -- an empty list makes a constant, whatever the relation holds
    obtain ⟨member, rfl⟩ := empty
    cases operation with
    | oneOf =>
      have nothing (found : List Json) :
          found.any (DocumentTest.holds .oneOf (.list [])) = false := by
        rw [List.any_eq_false]
        intro value _
        rw [Bool.not_eq_true]
        exact Bool.and_false _
      change false = (false || List.any _ _ || false)
      rw [Bool.or_false, Bool.false_or]
      exact (nothing _).symm
    | noneOf => rfl
    | _ => cases member
  · -- the condition searches for an element, and so does the memory
    have listed (member : operation.isMembership) :
        ∃ items, items ≠ [] ∧ value = .list items := by
      obtain ⟨items, rfl⟩ := listed member
      exact ⟨items, fun h => empty ⟨member, h ▸ rfl⟩, rfl⟩
    rw [ofComparison_eq_related joined fun member h => empty ⟨member, h⟩,
      noneOf_and_isEmptyList_bound listed, Bool.false_or]
    exact isTrueOf_related finite ordinary entities listed

/-! ### The engine -/

/-- **A search for an element** ends at one that passes, and goes on behind one that does not. -/
theorem someElement_cons {path : List String} {test : Test} {first : Json} {rest : List Json}
    {found : Value} (short : test.isTooLong = false)
    (read : Condition.elementValue path first = .ok found) :
    Condition.someElement path test (first :: rest) =
      if test.truth found = some true then .ok true
      else Condition.someElement path test rest := by
  -- the element is read without a failure, so its test decides
  have decided : (Condition.elementValue path first).bind test.passes =
      .ok (test.truth found == some true) := by
    rw [read]
    change test.passes found = _
    rw [Test.passes, short]
    rfl
  rw [Condition.someElement, decided]
  by_cases passed : test.truth found = some true
  · rw [if_pos passed, passed]
    rfl
  · have other : (test.truth found == some true) = false := by simpa using passed
    rw [if_neg passed, other]

/-- A search in which every element is read looks for the first element that passes. -/
theorem someElement_eq {path : List String} {test : Test} {items : List Json}
    (short : test.isTooLong = false)
    (read : ∀ item ∈ items,
      Condition.elementValue path item = .ok (Value.documented (item.at? path))) :
    Condition.someElement path test items = .ok (items.any fun item =>
      test.truth (Value.documented (item.at? path)) == some true) := by
  induction items with
  | nil => rfl
  | cons item items ih =>
    rw [someElement_cons short (read item List.mem_cons_self), List.any_cons]
    -- the search stops at an element that passes, so what stands behind it need not be read
    split
    · next passed => rw [passed, BEq.rfl, Bool.true_or]
    · next failed =>
      rw [beq_eq_false_iff_ne.2 failed, Bool.false_or]
      exact ih fun item mem => read item (List.mem_cons_of_mem _ mem)

/-- An engine that reads the relation as documented decides as the condition says. -/
theorem holds_related (joined : target.manyJoin? = some join)
    (ordinary : operation.isPattern = false)
    (reads : ReadsRelation join.relation target.path document) :
    (Condition.ofComparison ⟨target, operation, value⟩).holds document =
      .ok ((Condition.ofComparison ⟨target, operation, value⟩).isTrueOf document) := by
  by_cases empty : operation.isMembership ∧ value = .list []
  · -- a constant needs no elements
    obtain ⟨member, rfl⟩ := empty
    cases operation with
    | oneOf | noneOf => rfl
    | _ => cases member
  · rw [ofComparison_eq_related joined fun member h => empty ⟨member, h⟩]
    cases found : Test.ofOperation operation value with
    | none =>
      -- a comparison with null makes no test, and so no element passes
      have nothing (items : List Json) : (items.any fun _ => false) = false :=
        List.any_eq_false.2 fun _ _ => Bool.false_ne_true
      exact congrArg Except.ok (nothing _).symm
    | some test =>
      rw [Condition.holds, Condition.isTrueOf, reads.elements,
        someElement_eq (isTooLong_ofOperation ordinary found) reads.value]
      rfl

end Related

/-- **Relations to many entities in a database and in memory.** Where a relation is missing, null or
an array of objects, a database decides a comparison as the memory does for the value as it is asked
for and bound, but for a relation that is null, which passes the test for null in a database only.
So both agree on values without NaN, on membership in lists, and on relations that are not null. An
engine that reads the relation as documented decides so without a failure. -/
theorem related_agrees {document : Json} {target : Attribute} {join : Join} {operation : Operation}
    {value : TypedValue} (finite : document.isFinite) (joined : target.manyJoin? = some join)
    (ordinary : operation.isPattern = false) (entities : HoldsEntities join.relation document) :
    (Condition.ofComparison ⟨target, operation, value⟩).isTrueOf document =
      ((DocumentTest.ofComparison
          ⟨target, operation, (value.askedBy operation).bound⟩).passes document ||
        (operation == .isNull && isNullRelation join.relation document)) ∧
    (value.hasNaN = false → (operation.isMembership → ∃ items, value = .list items) →
      (operation = .isNull → isNullRelation join.relation document = false) →
        (Condition.ofComparison ⟨target, operation, value⟩).isTrueOf document =
          (DocumentTest.ofComparison ⟨target, operation, value⟩).passes document) ∧
    (ReadsRelation join.relation target.path document →
      (Condition.ofComparison ⟨target, operation, value⟩).holds document =
        .ok ((Condition.ofComparison ⟨target, operation, value⟩).isTrueOf document)) := by
  have agrees := isTrueOf_ofComparison finite joined ordinary entities
    value.exists_askedBy
  rw [ofComparison_askedBy] at agrees
  refine ⟨agrees, fun number listed present => ?_, holds_related joined ordinary⟩
  -- the exception is a null check on a null relation, and that is excluded
  have asked : (operation == .isNull && isNullRelation join.relation document) = false := by
    cases operation with
    | isNull => exact present rfl
    | _ => rfl
  rw [agrees, TypedValue.askedBy_eq listed, TypedValue.bound_eq number, asked, Bool.or_false]

/-- The ids of the owners of a task. -/
def ownerIds : Attribute := ⟨"Task", some ⟨"owners", "User", true⟩, ["id"], ⟨"id", .uuid⟩⟩

/-- A task whose owners are null. -/
def abandonedTask : Json := .object [("id", .text "t1"), ("owners", .null)]

/-- A relation that is null passes the test for null in a database, but not in memory. -/
theorem related_agrees_abandoned :
    abandonedTask.isFinite ∧ ownerIds.manyJoin? = some ⟨"owners", "User", true⟩ ∧
      HoldsEntities "owners" abandonedTask ∧
      (DocumentTest.ofComparison ⟨ownerIds, .isNull, .null⟩).passes abandonedTask = false ∧
      (Condition.ofComparison ⟨ownerIds, .isNull, .null⟩).isTrueOf abandonedTask = true ∧
      (Condition.ofComparison ⟨ownerIds, .isNull, .null⟩).holds abandonedTask = .ok true := by
  have finite : abandonedTask.isFinite := rfl
  have joined : ownerIds.manyJoin? = some ⟨"owners", "User", true⟩ := rfl
  have entities : HoldsEntities "owners" abandonedTask := trivial
  -- the only element is the null itself, which the engine reads as null
  have reads : ReadsRelation "owners" ["id"] abandonedTask := by
    refine ⟨rfl, fun element mem => ?_⟩
    obtain rfl : element = .null := List.mem_singleton.1 mem
    rfl
  obtain ⟨agrees, _, runs⟩ :=
    @related_agrees abandonedTask ownerIds _ .isNull .null finite joined rfl entities
  have database :
      (Condition.ofComparison ⟨ownerIds, .isNull, .null⟩).isTrueOf abandonedTask = true :=
    agrees.trans rfl
  exact ⟨finite, joined, entities, rfl, database, (runs reads).trans (congrArg _ database)⟩

end Database

end EntitySearch
