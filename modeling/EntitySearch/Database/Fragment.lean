import EntitySearch.Database.Condition
import EntitySearch.Filter.Basic

/-!
# Fragments

A fragment is a clause in the language of the database with a placeholder `?` for every parameter,
and the parameters in the order of their placeholders. Everything that comes from a request is a
parameter, paths included, so the text of a clause depends on the shape of a filter only.
-/

namespace EntitySearch.Database

/-- **A clause with its parameters.** -/
structure Fragment where
  text : String
  parameters : List Parameter := []
  deriving DecidableEq, Repr

namespace Fragment

/-- The clause that is always true. -/
def always : Fragment := ⟨"1", []⟩

/-- The clause that is never true. -/
def never : Fragment := ⟨"0", []⟩

/-- Clauses in parentheses with an operator between them. -/
def join (operator : String) (parts : List Fragment) : Fragment :=
  ⟨Text.joined operator (parts.map fun part => "(" ++ part.text ++ ")"),
    parts.flatMap Fragment.parameters⟩

/-- **The conjunction of clauses.** A single clause stands for itself. -/
def all : List Fragment → Fragment
  | [] => always
  | [single] => single
  | parts => join " AND " parts

/-- **The disjunction of clauses.** A single clause stands for itself. -/
def any : List Fragment → Fragment
  | [] => never
  | [single] => single
  | parts => join " OR " parts

end Fragment

/-- The symbol of a comparison. -/
def symbol : Operation → String
  | .equals => "="
  | .notEquals => "!="
  | .greater => ">"
  | .greaterEqual => ">="
  | .less => "<"
  | _ => "<="

/-- A keyword, or its negation. -/
def keyword (negated : Bool) (word : String) : String := if negated then "NOT " ++ word else word

/-- The clause for a test of the value at a path in a source. -/
def Test.fragment (source : String) (path : List String) (test : Test) : Fragment :=
  let column := "json_extract(" ++ source ++ ", ?) "
  let start : Parameter := .text (pathText path)
  match test with
  | isNull => ⟨column ++ "IS NULL", [start]⟩
  | isNotNull => ⟨column ++ "IS NOT NULL", [start]⟩
  | like negated pattern => ⟨column ++ keyword negated "LIKE" ++ " ?", [start, .text pattern]⟩
  | oneOf negated items =>
    let places := Text.joined ", " (items.map fun _ => "?")
    ⟨column ++ keyword negated "IN" ++ " (" ++ places ++ ")", start :: items⟩
  | compare operation parameter => ⟨column ++ symbol operation ++ " ?", [start, parameter]⟩

/-- The clause for a test that may be missing. -/
def elementFragment (path : List String) : Option Test → Fragment
  | some test => test.fragment "j.value" path
  | none => Fragment.never

/-- **The clause for a condition.** -/
def Condition.fragment : Condition → Fragment
  | always => Fragment.always
  | never => Fragment.never
  | direct path test => test.fragment "e.data" path
  | related relation path test =>
    let inner := elementFragment path test
    ⟨"EXISTS (SELECT 1 FROM json_each(e.data, ?) AS j WHERE " ++ inner.text ++ ")",
      .text (pathText [relation]) :: inner.parameters⟩

mutual

/-- **The clause for a filter.** -/
def fragment : Filter Condition → Fragment
  | .all => Fragment.always
  | .leaf condition => condition.fragment
  | .and children => Fragment.all (fragments children)
  | .or children => Fragment.any (fragments children)

/-- The clauses for a list of filters. -/
def fragments : List (Filter Condition) → List Fragment
  | [] => []
  | child :: rest => fragment child :: fragments rest

end

theorem fragments_eq_map (children : List (Filter Condition)) :
    fragments children = children.map fragment := by
  induction children with
  | nil => rfl
  | cons child rest ih => rw [fragments, ih, List.map_cons]

theorem fragment_and (children : List (Filter Condition)) :
    fragment (.and children) = Fragment.all (children.map fragment) := by
  rw [fragment, fragments_eq_map]

theorem fragment_or (children : List (Filter Condition)) :
    fragment (.or children) = Fragment.any (children.map fragment) := by
  rw [fragment, fragments_eq_map]

end EntitySearch.Database
