import EntitySearch.Json.Basic

/-!
# Literals

The value of a criterion before its attribute is known: null, a boolean, a number, a text or a list.
-/

namespace EntitySearch

/-- **A literal.** -/
inductive Literal where
  | null
  | bool (value : Bool)
  | integer (value : Int)
  | float (value : Double)
  | text (value : String)
  | list (items : List Literal)
  deriving BEq, Repr, Inhabited

namespace Literal

/-- Whether the literal is null. -/
def isNull : Literal → Bool
  | null => true
  | _ => false

mutual

/-- The text of a literal in messages: a list has brackets and commas. -/
def display : Literal → String
  | null => "null"
  | bool value => if value then "true" else "false"
  | integer value => Number.intText value
  | float value => value.plain
  | text value => value
  | list items => "[" ++ displayItems items ++ "]"

/-- The texts of the items of a list, with commas between them. -/
def displayItems : List Literal → String
  | [] => ""
  | [item] => display item
  | item :: next :: rest => display item ++ ", " ++ displayItems (next :: rest)

end

/-- **The text that is converted** to the type of an attribute. Null and lists have none. -/
def scalarText? : Literal → Option String
  | null => none
  | bool value => some (if value then "true" else "false")
  | integer value => some (Number.intText value)
  | float value => some value.plain
  | text value => some value
  | list _ => none

mutual

/-- The literal that a JSON value stands for. An integer beyond the signed 64-bit range is a float,
and objects are refused. -/
def ofJson? : Json → Option Literal
  | .null => some null
  | .bool value => some (bool value)
  | .int value => some (if Number.isInt64 value then integer value else float (Double.ofInt value))
  | .real value => some (float value)
  | .text value => some (text value)
  | .array items => (ofJsonItems? items).map list
  | .object _ => none

/-- The literals that the items of an array stand for. -/
def ofJsonItems? : List Json → Option (List Literal)
  | [] => some []
  | item :: rest =>
    match ofJson? item, ofJsonItems? rest with
    | some first, some others => some (first :: others)
    | _, _ => none

end

mutual

/-- A literal as it is written. A float is marked, so that it differs from an integer. -/
def toJson : Literal → Json
  | null => .null
  | bool value => .bool value
  | integer value => .int value
  | float value => .object [("float", .text value.plain)]
  | text value => .text value
  | list items => .array (toJsonItems items)

/-- The items of a list as they are written. -/
def toJsonItems : List Literal → List Json
  | [] => []
  | item :: rest => toJson item :: toJsonItems rest

end

end Literal

end EntitySearch
