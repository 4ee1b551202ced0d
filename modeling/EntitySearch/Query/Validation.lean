import EntitySearch.Metadata.Registry
import EntitySearch.Query.Expression

/-!
# Validation of queries

A query is checked before it is searched for: a malformed query is invalid, and a field that the
entity type does not declare brings a warning. The check looks at the first name of each path only,
so it is no promise that the path can be resolved.
-/

namespace EntitySearch.Query

/-- **What seems wrong** with a query that can be read. -/
inductive Warning where
  | unknownEntity (entity : String)
  | unknownField (field entity : String)
  deriving DecidableEq, Repr

/-- The text of a warning. -/
def Warning.message : Warning → String
  | unknownEntity entity => "Unknown entity type '" ++ entity ++ "'"
  | unknownField field entity => "Field '" ++ field ++ "' may not exist in entity " ++ entity

/-- **The result of a validation.** -/
structure Validation where
  fault : Option SyntaxFault := none
  warnings : List Warning := []
  deriving DecidableEq, Repr

/-- Whether the query can be read. -/
def Validation.isValid (validation : Validation) : Bool := validation.fault.isNone

/-- A name without opening brackets in front and closing brackets behind. -/
def withoutBrackets (s : List Char) : List Char :=
  ((s.dropWhile (· = '[')).reverse.dropWhile (· = ']')).reverse

/-- **The first field of a path.** The name of the entity type in front of another name is no
field. -/
def firstField (path entity : String) : String :=
  let chosen :=
    match Text.splitAt '.' path.toList with
    | first :: second :: _ =>
      if Text.equalsIgnoringCase first entity.toList then second else first
    | [first] => first
    | [] => []
  String.ofList (withoutBrackets chosen)

/-- The warning for a path, if its first field is not declared. -/
def warning? (registry : Registry) (entity path : String) : Option Warning :=
  let field := firstField path entity
  if (registry.findField? entity field).isNone then some (.unknownField field entity) else none

/-- The warnings for a query, in the order of its conditions. -/
def warnings (registry : Registry) (entity : String) (expression : Expression) : List Warning :=
  if (registry.entity? entity).isNone then [.unknownEntity entity]
  else expression.conditions.filterMap fun condition => warning? registry entity condition.path

/-- **Validating a query** over an entity type. A blank query is valid. -/
def validate (registry : Registry) (strict : Bool) (query entity : String) : Validation :=
  if Text.isBlankText query then {}
  else
    match read strict query with
    | .error fault => { fault := some fault }
    | .ok expression => { warnings := warnings registry entity expression }

end EntitySearch.Query
