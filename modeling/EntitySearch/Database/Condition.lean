import EntitySearch.Comparison
import EntitySearch.Database.Node.Reader
import EntitySearch.Database.Parameter
import EntitySearch.Pattern

/-!
# Conditions

A comparison becomes a condition that a database decides for every document: a test of the value at
a path, or a search for an element of a relation with a value that passes the test. Tests are true,
false or unknown, and only a true one lets a document pass. An element that is a text is read as a
JSON document of its own, so a condition on a relation fails where such a text is malformed. A test
with a pattern that is too long fails wherever it is made.
-/

namespace EntitySearch.Database

/-- **A test of a value.** -/
inductive Test where
  | isNull
  | isNotNull
  | like (negated : Bool) (pattern : String)
  | oneOf (negated : Bool) (items : List Parameter)
  | compare (operation : Operation) (parameter : Parameter)
  deriving DecidableEq, Repr

namespace Test

/-- **The test of an operation** with a typed value. A comparison with null has none. -/
def ofOperation (operation : Operation) (value : TypedValue) : Option Test :=
  match operation with
  | .isNull => some isNull
  | .isNotNull => some isNotNull
  | .like => some (like false value.patternText)
  | .notLike => some (like true value.patternText)
  | .oneOf | .noneOf =>
    let items :=
      match value with
      | .list items => items.map Parameter.ofTyped
      | single => [Parameter.ofTyped single]
    some (oneOf (operation == .noneOf) items)
  | _ => if value.isNull then none else some (compare operation (Parameter.ofTyped value))

/-- The truth of a test and of its negation. -/
def negatedIf (negated : Bool) (truth : Option Bool) : Option Bool := truth.map (· != negated)

/-- Whether a value is one of a list: unknown if it is not but something in question is null. -/
def memberTruth (value : Value) (items : List Parameter) : Option Bool :=
  let orders := items.map fun item => value.order? item.value
  if orders.contains (some .eq) then some true
  else if orders.contains none then none
  else some false

/-- **The truth of a test** of a value; none is unknown. -/
def truth (value : Value) : Test → Option Bool
  | isNull => some (value == .null)
  | isNotNull => some (value != .null)
  | like negated pattern =>
    negatedIf negated
      (value.patternText?.map fun text =>
        Pattern.fits (fun a b => a.toLower == b.toLower)
          (Value.patternChars (pointsOf pattern)) text)
  | oneOf negated items => negatedIf negated (memberTruth value items)
  | compare operation parameter => (value.order? parameter.value).map operation.holdsOf

/-- The greatest length of a pattern in bytes. -/
def maxPattern : Nat := 50000

/-- Whether the pattern of a test is too long. -/
def isTooLong : Test → Bool
  | like _ pattern => maxPattern < pattern.utf8ByteSize
  | _ => false

/-- **Whether a value passes a test.** -/
def passes (test : Test) (value : Value) : Except DatabaseFault Bool :=
  if test.isTooLong then .error .patternTooLong else .ok (test.truth value == some true)

end Test

/-- **A condition on a document.** A test of the elements of a relation that is missing is passed by
none of them. -/
inductive Condition where
  | always
  | never
  | direct (path : List String) (test : Test)
  | related (relation : String) (path : List String) (test : Option Test)
  deriving DecidableEq, Repr

namespace Condition

/-- **The condition of a comparison.** -/
def ofComparison (comparison : Comparison) : Condition :=
  match comparison.operation, comparison.value with
  | .oneOf, .list [] => never
  | .noneOf, .list [] => always
  | operation, value =>
    let test := Test.ofOperation operation value
    match comparison.target.manyJoin?, test with
    | some join, test => related join.relation comparison.target.path test
    | none, some test => direct comparison.target.documentPath test
    | none, none => never

/-- The elements of a relation of a document: those of an array, the values of the members of an
object, or a single value. -/
def elements (relation : String) (document : Json) : List Json :=
  match memberAt? relation document with
  | some (.array items) => items
  | some (.object members) => members.map Prod.snd
  | some single => [single]
  | none => []

/-- The value at a path in an element. -/
def elementValue (path : List String) : Json → Except DatabaseFault Value
  | .text inner =>
    match Node.read? inner with
    | some node => Node.value (node.at? path)
    | none => .error .malformedJson
  | element => .ok (Value.ofJson (found? path element))

/-- Whether some element has a value at a path that passes a test. The elements behind it are not
looked at. -/
def someElement (path : List String) (test : Test) : List Json → Except DatabaseFault Bool
  | [] => .ok false
  | element :: rest =>
    match (elementValue path element).bind test.passes with
    | .ok false => someElement path test rest
    | other => other

/-- **Whether a condition is true** of a document. -/
def holds (document : Json) : Condition → Except DatabaseFault Bool
  | always => .ok true
  | never => .ok false
  | direct path test => test.passes (Value.ofJson (found? path document))
  | related relation path (some test) => someElement path test (elements relation document)
  | related _ _ none => .ok false

end Condition

end EntitySearch.Database
