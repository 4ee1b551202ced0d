import EntitySearch.Query.Expression
import EntitySearch.Request.Basic

/-!
# Requests of queries

A query becomes a request with one criterion for each condition, numbered `C1`, `C2`, … from left
to right. Every condition is a group of its own and every level of parentheses a merged group; both
sorts share the numbers `G1`, `G2`, … in the order in which they are completed. The merged group of
the outermost level is the root of the request.
-/

namespace EntitySearch

namespace Request

/-- **A request in the making**, with the numbers given to conditions and to groups so far. -/
structure Numbered where
  request : Request := {}
  conditions : Nat := 0
  groups : Nat := 0

/-- The id of a criterion. -/
def criterionId (n : Nat) : String := "C" ++ Number.natText n

/-- The id of a group. -/
def groupId (n : Nat) : String := "G" ++ Number.natText n

/-- Different numbers have different texts. -/
theorem natText_injective : Function.Injective Number.natText := by
  intro m n same
  have digits : Number.natDigits m = Number.natDigits n := String.ofList_injective same
  calc m = Nat.ofDigitChars 10 (Nat.toDigits 10 m) 0 := Nat.ofDigitChars_ten_toDigits.symm
    _ = Nat.ofDigitChars 10 (Nat.toDigits 10 n) 0 := congrArg (Nat.ofDigitChars 10 · 0) digits
    _ = n := Nat.ofDigitChars_ten_toDigits

theorem groupId_injective : Function.Injective groupId := by
  intro m n same
  exact natText_injective (String.append_right_inj "G" |>.1 same)

/-- The root has an id that no group gets by its number. -/
theorem groupId_ne_finalGroup (n : Nat) : groupId n ≠ finalGroup := by
  intro same
  have first := congrArg (fun s => s.toList.head?) same
  simp [groupId, finalGroup] at first

namespace Numbered

/-- Adds a condition in a group of its own. -/
def addCondition (entity : String) (condition : Query.Condition) (made : Numbered) : Numbered :=
  let criterion : Criterion :=
    ⟨criterionId (made.conditions + 1), entity, condition.path, condition.operation,
      condition.value⟩
  ⟨made.request.add (groupId (made.groups + 1)) (some .and) criterion, made.conditions + 1,
    made.groups + 1⟩

/-- Adds a merged group of groups. -/
def addLevel (connective : Connective) (members : List String) (made : Numbered) : Numbered :=
  ⟨made.request.merge (groupId (made.groups + 1)) connective members, made.conditions,
    made.groups + 1⟩

mutual

/-- Adds a query and tells the id of its group. -/
def addExpression (entity : String) : Expression → Numbered → Numbered × String
  | .condition condition, made =>
    let made := made.addCondition entity condition
    (made, groupId made.groups)
  | .group connective children, made =>
    let (made, members) := addExpressions entity children made
    let made := made.addLevel connective members
    (made, groupId made.groups)

/-- Adds queries from left to right and tells the ids of their groups. -/
def addExpressions (entity : String) : List Expression → Numbered → Numbered × List String
  | [], made => (made, [])
  | child :: rest, made =>
    let (made, first) := addExpression entity child made
    let (made, others) := addExpressions entity rest made
    (made, first :: others)

end

end Numbered

/-- **The request of a query tree.** -/
def ofExpression (entity : String) (expression : Expression) : Except GraphFault Request :=
  let (made, root) := Numbered.addExpression entity expression {}
  match expression with
  | .condition _ => .ok made.request
  | .group .. => made.request.rename root finalGroup

/-- **The request of a query** over an entity type. -/
def ofQuery (strict : Bool) (query entity : String) : Except SearchError Request :=
  match Query.read strict query with
  | .error fault => .error (.malformed fault)
  | .ok expression =>
    match ofExpression entity expression with
    | .error fault => .error (.graph fault)
    | .ok request => .ok request

end Request

end EntitySearch
