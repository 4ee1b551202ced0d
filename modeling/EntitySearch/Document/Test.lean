import EntitySearch.Comparison
import EntitySearch.Document.Scalar
import EntitySearch.Filter.Basic
import EntitySearch.Pattern

/-!
# Tests of documents

A comparison becomes a test that a document passes or fails. A test looks at the value at a path,
or at the values at a path in all entities of a relation, of which one has to pass. A missing value
is null, and null passes no test but the one for null and the one for not being in an empty list.
-/

namespace EntitySearch

/-- **Where a test looks**: at a path in the document, or in the entities of a relation. -/
structure Place where
  relation : Option String
  path : List String
  deriving DecidableEq, Repr

/-- The place of an attribute. -/
def Attribute.place (a : Attribute) : Place :=
  match a.manyJoin? with
  | some join => ⟨some join.relation, a.path⟩
  | none => ⟨none, a.documentPath⟩

/-- **A test of a document.** -/
inductive DocumentTest where
  | compare (place : Place) (operation : Operation) (value : TypedValue)
  | like (place : Place) (pattern : String) (negated : Bool)
  deriving BEq

namespace DocumentTest

/-- The test of a comparison. -/
def ofComparison (comparison : Comparison) : DocumentTest :=
  let place := comparison.target.place
  if comparison.operation.isPattern then
    .like place comparison.value.patternText (comparison.operation == .notLike)
  else .compare place comparison.operation comparison.value

/-- The value at a path; a missing value is null. -/
def valueAt (path : List String) (document : Json) : Json := (document.at? path).getD .null

/-- The values that a test looks at. A relation may hold one entity without an array around it. -/
def valuesAt (place : Place) (document : Json) : List Json :=
  match place.relation with
  | none => [valueAt place.path document]
  | some relation =>
    match document.member? relation with
    | some (.array items) => items.map (valueAt place.path)
    | some (.object members) => [valueAt place.path (.object members)]
    | _ => []

/-- Whether a value is one of a list. -/
def isOneOf (found : Json) (items : List TypedValue) : Bool :=
  items.any fun item => found.orderTyped? item == some .eq

/-- Whether a value is none of a list; null in the list makes that unknown. -/
def isNoneOf (found : Json) (items : List TypedValue) : Bool :=
  items.all fun item =>
    match found.orderTyped? item with
    | some order => order != .eq
    | none => false

/-- Whether a membership test holds of a value; null is in no list and outside of none. -/
def membership (test : Json → List TypedValue → Bool) (found : Json) : TypedValue → Bool
  | .list items => (found.scalar?).isSome && test found items
  | _ => false

/-- **Whether an operation holds** of a stored value and a typed value. -/
def holds (operation : Operation) (value : TypedValue) (found : Json) : Bool :=
  match operation with
  | .isNull => (found.scalar?).isNone
  | .isNotNull => (found.scalar?).isSome
  | .oneOf => membership isOneOf found value
  | .noneOf => membership isNoneOf found value
  | _ =>
    match found.orderTyped? value with
    | some order => operation.holdsOf order
    | none => false

/-- The text of a stored value for patterns. A boolean is `1` or `0`. -/
def patternText? : Json → Option String
  | .null => none
  | .text value => some value
  | .bool value => some (if value then "1" else "0")
  | value => some value.compact

/-- Whether a stored value has a text that matches a pattern, or one that does not if `negated`. -/
def fits (pattern : String) (negated : Bool) (found : Json) : Bool :=
  match patternText? found with
  | some text => (CompiledPattern.ofSource pattern).isMatch text != negated
  | none => false

/-- Whether a value is the empty list. -/
def isEmptyList : TypedValue → Bool
  | .list items => items.isEmpty
  | _ => false

/-- **Whether a document passes a test.** Every document passes the test for not being in an empty
list, whatever it holds. -/
def passes (document : Json) : DocumentTest → Bool
  | like place pattern negated => (valuesAt place document).any (fits pattern negated)
  | compare place operation value =>
    if operation = .noneOf && isEmptyList value then true
    else (valuesAt place document).any (holds operation value)

end DocumentTest

/-- Whether a document passes a filter of comparisons. -/
def Filter.accepts (filter : Filter Comparison) (document : Json) : Bool :=
  filter.holds fun comparison => (DocumentTest.ofComparison comparison).passes document

end EntitySearch
