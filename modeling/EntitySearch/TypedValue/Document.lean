import EntitySearch.Calendar.Layout
import EntitySearch.Json.Shape
import EntitySearch.TypedValue

/-!
# Typed values as documents

A typed value is written as an object with its type and its value. In such a document decimals,
UUIDs, dates and times are texts; a decimal may also be given as a number. White space may stand
around the marks of a date or time that is read.
-/

namespace EntitySearch

/-- Year, month and day with hyphens between them and white space around these. -/
def Calendar.looseDateLayout : List Calendar.LayoutPart :=
  [.year, .blanks, .mark '-', .month, .blanks, .mark '-', .day, .blanks]

/-- A date, a `T` and a time, with white space around the marks between their numbers. -/
def Calendar.looseDateTimeLayout : List Calendar.LayoutPart :=
  Calendar.looseDateLayout ++
    [.mark 'T', .hour, .blanks, .mark ':', .minute, .blanks, .mark ':', .second, .fraction, .blanks]

namespace TypedValue

/-- Reads a text with a reader for its characters. -/
def ofText? {α : Type} (read? : List Char → Option α) (value : Json) : Option α :=
  value.text?.bind fun written => read? written.toList

/-- Reads a double from any number. -/
def double? : Json → Option Double
  | .int n => some (Double.ofInt n)
  | .real x => some x
  | _ => none

/-- Reads a decimal from a text or a number. -/
def decimal? : Json → Option Decimal
  | .text written => Decimal.read? written.toList
  | .int n => Decimal.read? (Number.intDigits n)
  | .real x => Decimal.read? x.plain.toList
  | _ => none

/-- Reads a date. -/
def date? (s : List Char) : Option Date :=
  (Calendar.takeAll? Calendar.looseDateLayout {} s).bind Calendar.Moment.date?

/-- Reads a date and time. -/
def dateTime? (s : List Char) : Option DateTime :=
  (Calendar.takeAll? Calendar.looseDateTimeLayout {} s).bind Calendar.Moment.dateTime?

/-- Reads the value of a type that is not a list. -/
def ofType? (type : String) (value : Json) : Option TypedValue :=
  match type with
  | "bool" => value.bool?.map bool
  | "integer" => (value.intIn? Number.minInt32 Number.maxInt32).map integer
  | "long" => (value.intIn? Number.minInt64 Number.maxInt64).map long
  | "double" => (double? value).map double
  | "decimal" => (decimal? value).map decimal
  | "text" => value.text?.map text
  | "uuid" => (ofText? Uuid.read? value).map uuid
  | "date" => (ofText? date? value).map date
  | "date_time" => (ofText? dateTime? value).map dateTime
  | "enum" => value.text?.map constant
  | _ => none

/-- The members of a typed value: those of an object, or the two items of an array. -/
def typeAndValue? : Json → Option (String × Option Json)
  | .object members =>
    match Named.get? "type" members with
    | some (.text type) => some (type, Named.get? "value" members)
    | _ => none
  | .array [.text type, value] => some (type, some value)
  | _ => none

/-- Reads a typed value whose lists are nested less than `depth` deep. -/
def readNested? : Nat → Json → Option TypedValue
  | 0, _ => none
  | depth + 1, document =>
    match typeAndValue? document with
    | some ("null", none) | some ("null", some .null) => some null
    | some ("list", some (.array items)) => (items.mapM (readNested? depth)).map list
    | some (type, some value) => ofType? type value
    | _ => none

/-- The greatest depth of a document. -/
def maxDepth : Nat := 128

/-- **Reading a typed value** from a document. -/
def ofJson? (document : Json) : Option TypedValue := readNested? maxDepth document

/-- The document of a type and a value. -/
def tagged (type : String) (value : Json) : Json := .object [("type", .text type), ("value", value)]

mutual

/-- **A typed value as a document.** -/
def toJson : TypedValue → Json
  | null => .object [("type", .text "null")]
  | bool value => tagged "bool" (.bool value)
  | integer value => tagged "integer" (.int value)
  | long value => tagged "long" (.int value)
  | double value => tagged "double" (.text value.plain)
  | decimal value => tagged "decimal" (.text value.text)
  | text value => tagged "text" (.text value)
  | uuid value => tagged "uuid" (.text value.text)
  | date value => tagged "date" (.text value.text)
  | dateTime value => tagged "date_time" (.text value.text)
  | constant name => tagged "enum" (.text name)
  | list items => tagged "list" (.array (toJsonItems items))

/-- The documents of the items of a list. -/
def toJsonItems : List TypedValue → List Json
  | [] => []
  | item :: rest => toJson item :: toJsonItems rest

end

end TypedValue

end EntitySearch
