import EntitySearch.Database.Statement

/-!
# Limits

What the engine refuses before it runs a statement. It parses a clause into a tree, in which a
chain of conjunctions or disjunctions leans to the left, and it bounds the height of that tree. A
conjunction with the constant zero becomes the constant zero. A search for an element is looked at
inside of the whole clause, so its own height counts on top of it. The parameters of a statement
and the columns of a result are bounded, too. Heights and parameters are met while the text is
parsed, from left to right; then the columns are counted, and the searches for elements come last.
-/

namespace EntitySearch.Database

/-- The greatest height of a clause. -/
def maxHeight : Nat := 1000

/-- The greatest number of parameters. -/
def maxParameters : Nat := 32766

/-- The greatest number of columns of a result. -/
def maxColumns : Nat := 2000

/-! ### Clauses -/

/-- **The measure of a clause**: its height, the number of its parameters, how many of these stand
in front of the place where it first grows too high, the greatest height within a search for an
element, and whether the clause is the constant zero. -/
structure Measure where
  height : Nat
  parameters : Nat := 0
  overgrown? : Option Nat := none
  inner : Nat := 0
  isZero : Bool := false
  deriving DecidableEq, Repr

namespace Measure

/-- The constant one. -/
def one : Measure := { height := 1 }

/-- The constant zero. -/
def zero : Measure := { height := 1, isZero := true }

/-- The disjunction of two clauses. -/
def or (a b : Measure) : Measure :=
  let height := max a.height b.height + 1
  let parameters := a.parameters + b.parameters
  let here := if maxHeight < height then some parameters else none
  { height, parameters, inner := max a.inner b.inner,
    overgrown? := a.overgrown? <|> b.overgrown?.map (a.parameters + ·) <|> here }

/-- The conjunction of two clauses. -/
def and (a b : Measure) : Measure :=
  if a.isZero || b.isZero then
    { zero with
      parameters := a.parameters + b.parameters,
      overgrown? := a.overgrown? <|> b.overgrown?.map (a.parameters + ·) }
  else or a b

/-- A chain of clauses; none stands for an empty one. -/
def chain (join : Measure → Measure → Measure) (none : Measure) : List Measure → Measure
  | [] => none
  | first :: rest => rest.foldl join first

end Measure

/-- The height of a test. -/
def Test.height : Test → Nat
  | like true _ | oneOf true _ => 5
  | _ => 4

/-- The height of what stands within a search for an element. -/
def innerHeight : Option Test → Nat
  | some test => test.height
  | none => 1

/-- The measure of a condition. The search itself names a document, which has a height of two. -/
def Condition.measure (condition : Condition) : Measure :=
  let parameters := condition.fragment.parameters.length
  match condition with
  | always => .one
  | never => .zero
  | direct _ test => { height := test.height, parameters }
  | related _ _ test =>
    { height := innerHeight test + 1, parameters, inner := max 2 (innerHeight test) }

mutual

/-- **The measure of the clause for a filter.** -/
def measure : Filter Condition → Measure
  | .all => .one
  | .leaf condition => condition.measure
  | .and children => .chain .and .one (measures children)
  | .or children => .chain .or .zero (measures children)

/-- The measures of the clauses for a list of filters. -/
def measures : List (Filter Condition) → List Measure
  | [] => []
  | child :: rest => measure child :: measures rest

end

/-- **The measure of the condition of a statement**: the clause for a filter behind the test of the
entity type, with parameters in front of both. -/
def Measure.ofStatement (leading : Nat) (filter : Filter Condition) : Measure :=
  .and { height := 3, parameters := leading + 1 } (measure filter)

/-! ### Statements -/

/-- The number of bytes in front of the placeholder with a number, counted from zero. -/
def placeholderOffset : Nat → List Char → Nat
  | _, [] => 0
  | count, c :: rest =>
    if c = '?' then
      match count with
      | 0 => 0
      | count + 1 => 1 + placeholderOffset count rest
    else c.utf8Size + placeholderOffset count rest

/-- The refusal of a statement with too many parameters: the first one too many is pointed out. -/
def refusal (statement : Fragment) : DatabaseFault :=
  .tooManyParameters statement.text (placeholderOffset maxParameters statement.text.toList)

/-- Whether a parameter too many is met before the clause grows too high, with some parameters
behind the clause. -/
def Measure.asksTooMuch (condition : Measure) (trailing : Nat) : Bool :=
  maxParameters < condition.overgrown?.getD (condition.parameters + trailing)

/-- Whether the clause grows too high where elements are searched for. -/
def Measure.searchesTooDeep (condition : Measure) : Bool :=
  0 < condition.inner && maxHeight < condition.height + condition.inner

/-- **Checks the statement that fetches a page.** It has two columns beside the projected ones, and
three parameters behind its condition. -/
def checkFetch (fetch : Fetch) (filter : Filter Condition) : Except DatabaseFault Unit :=
  let shown := (fetch.projection.map List.length).getD 0
  let condition := Measure.ofStatement shown filter
  if condition.asksTooMuch 3 then .error (refusal (fetchStatement fetch filter))
  else if condition.overgrown?.isSome then .error (.clauseTooDeep maxHeight)
  else if maxColumns < shown + 2 then .error .tooManyColumns
  else if condition.searchesTooDeep then .error (.clauseTooDeep maxHeight)
  else .ok ()

/-- **Checks the statement that counts matches.** -/
def checkCount (entity : String) (filter : Filter Condition) : Except DatabaseFault Unit :=
  let condition := Measure.ofStatement 0 filter
  if condition.asksTooMuch 0 then .error (refusal (countStatement entity filter))
  else if condition.overgrown?.isSome || condition.searchesTooDeep then
    .error (.clauseTooDeep maxHeight)
  else .ok ()

end EntitySearch.Database
