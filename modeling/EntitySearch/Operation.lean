/-!
# Operations

The comparisons of a criterion, the connectives that join criteria and groups, and the sort
directions, with the names under which requests and documents spell them.
-/

namespace EntitySearch

/-- **The comparison that a criterion makes.** -/
inductive Operation where
  | equals
  | notEquals
  | like
  | notLike
  | greater
  | greaterEqual
  | less
  | lessEqual
  | oneOf
  | noneOf
  | isNull
  | isNotNull
  deriving DecidableEq, Repr

namespace Operation

/-- All operations. -/
def all : List Operation :=
  [.equals, .notEquals, .like, .notLike, .greater, .greaterEqual, .less, .lessEqual,
    .oneOf, .noneOf,
   .isNull, .isNotNull]

/-- Whether the operation takes a list of values. -/
def isMembership : Operation → Bool
  | oneOf | noneOf => true
  | _ => false

/-- Whether the operation ignores the value. -/
def isNullCheck : Operation → Bool
  | isNull | isNotNull => true
  | _ => false

/-- Whether the value of the operation is a pattern. -/
def isPattern : Operation → Bool
  | like | notLike => true
  | _ => false

section Kinds

variable {operation : Operation}

/-- A membership test does not ignore its values. -/
theorem isNullCheck_of_isMembership (member : operation.isMembership) :
    operation.isNullCheck = false := by
  cases operation with
  | oneOf | noneOf => rfl
  | _ => cases member

/-- A pattern is not ignored. -/
theorem isNullCheck_of_isPattern (pattern : operation.isPattern) :
    operation.isNullCheck = false := by
  cases operation with
  | like | notLike => rfl
  | _ => cases pattern

/-- A pattern is one value and not a list. -/
theorem isMembership_of_isPattern (pattern : operation.isPattern) :
    operation.isMembership = false := by
  cases operation with
  | like | notLike => rfl
  | _ => cases pattern

end Kinds

/-- The name of an operation. -/
def name : Operation → String
  | equals => "EQUALS"
  | notEquals => "NOT_EQUALS"
  | like => "LIKE"
  | notLike => "NOT_LIKE"
  | greater => "GREATER"
  | greaterEqual => "GREATER_EQUAL"
  | less => "LESS"
  | lessEqual => "LESS_EQUAL"
  | oneOf => "IN"
  | noneOf => "NOT_IN"
  | isNull => "IS_NULL"
  | isNotNull => "IS_NOT_NULL"

/-- The operation of a name. -/
def ofName? (name : String) : Option Operation := all.find? fun op => op.name = name

/-- Whether the operation holds of two values in the given order. Operations that do not compare by
order hold of none. -/
def holdsOf (op : Operation) (order : Ordering) : Bool :=
  match op with
  | equals => order == .eq
  | notEquals => order != .eq
  | greater => order == .gt
  | greaterEqual => order != .lt
  | less => order == .lt
  | lessEqual => order != .gt
  | _ => false

end Operation

/-- **A connective.** -/
inductive Connective where
  | and
  | or
  deriving DecidableEq, Repr

namespace Connective

/-- The name of a connective. -/
def name : Connective → String
  | and => "AND"
  | or => "OR"

/-- The symbol of a connective in a query. -/
def symbol : Connective → Char
  | and => '&'
  | or => '|'

/-- The connective of a name. -/
def ofName? (name : String) : Option Connective := [and, or].find? fun c => c.name = name

/-- The connective of a symbol. -/
def ofSymbol? (c : Char) : Option Connective :=
  if c = '&' then some and else if c = '|' then some or else none

theorem ofSymbol?_eq_some_iff {c : Char} {connective : Connective} :
    ofSymbol? c = some connective ↔ c = connective.symbol := by
  constructor
  · intro found
    unfold ofSymbol? at found
    split at found
    · next same => cases found; exact same
    · split at found
      · next same => cases found; exact same
      · cases found
  · rintro rfl
    cases connective <;> rfl

end Connective

/-- **The direction of a sort.** -/
inductive Direction where
  | ascending
  | descending
  deriving DecidableEq, Repr

namespace Direction

/-- The name of a direction. -/
def name : Direction → String
  | ascending => "ASC"
  | descending => "DESC"

/-- The direction of a name. -/
def ofName? (name : String) : Option Direction :=
  [ascending, descending].find? fun d => d.name = name

end Direction

end EntitySearch
