import EntitySearch.Database.Condition
import EntitySearch.Filter.Basic

/-!
# Evaluation of conditions

The order in which the conditions of a filter are looked at shows only where one of them fails.
Constants decide first. Then the conjuncts of the filter are tried until one is not true, those on
the document itself before those on relations, and within a conjunct from left to right.
-/

namespace EntitySearch.Database

mutual

/-- What a filter is by its constants alone, if they decide it. -/
def constant? : Filter Condition → Option Bool
  | .all => some true
  | .leaf .always => some true
  | .leaf .never => some false
  | .leaf _ => none
  | .and children => constantAnd? children
  | .or children => constantOr? children

/-- What a conjunction is by its constants alone. -/
def constantAnd? : List (Filter Condition) → Option Bool
  | [] => some true
  | child :: rest =>
    match constant? child, constantAnd? rest with
    | some false, _ | _, some false => some false
    | some true, some true => some true
    | _, _ => none

/-- What a disjunction is by its constants alone. -/
def constantOr? : List (Filter Condition) → Option Bool
  | [] => some false
  | child :: rest =>
    match constant? child, constantOr? rest with
    | some true, _ | _, some true => some true
    | some false, some false => some false
    | _, _ => none

end

mutual

/-- Whether a filter is true of a document, looked at from left to right. -/
def holds (document : Json) : Filter Condition → Except DatabaseFault Bool
  | .all => .ok true
  | .leaf condition => condition.holds document
  | .and children =>
    match constantAnd? children with
    | some decided => .ok decided
    | none => holdsAll document children
  | .or children =>
    match constantOr? children with
    | some decided => .ok decided
    | none => holdsAny document children

/-- Whether all filters of a list are true; those behind the first that is not are not looked at. -/
def holdsAll (document : Json) : List (Filter Condition) → Except DatabaseFault Bool
  | [] => .ok true
  | child :: rest =>
    match holds document child with
    | .ok true => holdsAll document rest
    | other => other

/-- Whether some filter of a list is true; those behind it are not looked at. -/
def holdsAny (document : Json) : List (Filter Condition) → Except DatabaseFault Bool
  | [] => .ok false
  | child :: rest =>
    match holds document child with
    | .ok false => holdsAny document rest
    | other => other

end

mutual

/-- The conjuncts of a filter. -/
def conjuncts : Filter Condition → List (Filter Condition)
  | .all => []
  | .and children => conjunctsOf children
  | .or [single] => conjuncts single
  | other => [other]

/-- The conjuncts of a list of filters. -/
def conjunctsOf : List (Filter Condition) → List (Filter Condition)
  | [] => []
  | child :: rest => conjuncts child ++ conjunctsOf rest

end

/-- Whether a condition looks into a relation. -/
def Condition.isRelated : Condition → Bool
  | related .. => true
  | _ => false

/-- The conjuncts in the order in which they are tried. -/
def inTurn (filter : Filter Condition) : List (Filter Condition) :=
  let (related, direct) := (conjuncts filter).partition fun part => part.leaves.any (·.isRelated)
  direct ++ related

/-- **Whether a document is selected** by a filter. -/
def selects (filter : Filter Condition) (document : Json) : Except DatabaseFault Bool :=
  match constant? filter with
  | some decided => .ok decided
  | none => holdsAll document (inTurn filter)

end EntitySearch.Database
