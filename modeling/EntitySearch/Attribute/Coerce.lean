import EntitySearch.Calendar.Layout
import EntitySearch.Error
import EntitySearch.Literal
import EntitySearch.Metadata.FieldType
import EntitySearch.Operation
import EntitySearch.Text.Blank
import EntitySearch.TypedValue

/-!
# Converting literals

The literal of a criterion is converted to the type of its field. Scalars are converted through
their text, which may have white space around it unless the field is a text. A membership test
converts every element of a list; a text without a list is a list with commas. Patterns stay text,
and null checks have no value.
-/

namespace EntitySearch

/-- The boolean of a word in any case. -/
def boolOfWord? (s : List Char) : Option Bool :=
  if Text.equalsIgnoringCase s "true".toList then some true
  else if Text.equalsIgnoringCase s "false".toList then some false
  else none

namespace FieldType

/-- **The typed value of a text.** A text that is no constant of an enumeration is null. -/
def valueOf? (type : FieldType) (text : String) : Option TypedValue :=
  let trimmed := Text.trim text.toList
  match type with
  | .text => some (.text text)
  | .integer => (Number.readInt? Number.minInt32 Number.maxInt32 trimmed).map .integer
  | .long => (Number.readInt? Number.minInt64 Number.maxInt64 trimmed).map .long
  | .double => (Double.read? trimmed).map .double
  | .decimal => (Decimal.read? trimmed).map .decimal
  | .boolean => (boolOfWord? trimmed).map .bool
  | .uuid => (Uuid.read? trimmed).map .uuid
  | .date => (Calendar.readDate? trimmed).map .date
  | .dateTime => (Calendar.readDateTime? trimmed).map .dateTime
  | .enumeration constants =>
    let name := String.ofList trimmed
    some (if constants.contains name then .constant name else .null)
  | .embedded _ | .relation .. => none

end FieldType

namespace Field

/-- The error for a literal that cannot be converted. -/
def conversionError (field : Field) (literal : Literal) : SearchError :=
  .conversion field.name field.type.kind literal.display

/-- **Converting a scalar.** -/
def coerce (field : Field) (literal : Literal) : Except SearchError TypedValue :=
  if literal.isNull then .ok .null
  else
    match literal.scalarText?.bind field.type.valueOf? with
    | some value => .ok value
    | none => .error (field.conversionError literal)

/-- The elements of a membership test: the items of a list, the trimmed parts of a text with commas,
or a single scalar. -/
def elements : Literal → List Literal
  | .list items => items
  | .text text =>
    (Text.splitAt ',' text.toList).map fun part => .text (String.ofList (Text.trim part))
  | scalar => [scalar]

/-- **Converting the elements** of a membership test, in order and with repetitions. -/
def coerceMany (field : Field) (literal : Literal) : Except SearchError TypedValue := do
  let values ← (elements literal).mapM field.coerce
  .ok (.list values)

/-- Converting a pattern: any scalar stays as its text. -/
def coercePattern (field : Field) (literal : Literal) : Except SearchError TypedValue :=
  if literal.isNull then .ok .null
  else
    match literal.scalarText? with
    | some text => .ok (.text text)
    | none => .error (field.conversionError literal)

/-- **Converting a literal for an operation.** -/
def coerceFor (field : Field) (operation : Operation) (literal : Literal) :
    Except SearchError TypedValue :=
  if operation.isNullCheck then .ok .null
  else if !field.type.isScalar then .error (field.conversionError literal)
  else if operation.isMembership then field.coerceMany literal
  else if operation.isPattern then field.coercePattern literal
  else field.coerce literal

end Field

end EntitySearch
