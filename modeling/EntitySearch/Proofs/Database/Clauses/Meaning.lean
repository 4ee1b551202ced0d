import EntitySearch.Proofs.Database.Clauses.Reader

/-!
# The meaning of clauses

Clauses have three truth values; none is the unknown one. A negation of the unknown is unknown, and
conjunctions and disjunctions are unknown where no decided side decides them. A comparison with null
is unknown, membership in a list is the disjunction of the comparisons with its items, and a search
for an element is never unknown.

What a clause reads out of a row is not looked into here: a view says what value stands at each path
of the document, and what each element of a relation holds (`View`). So what is shown of the truth
of clauses holds for every way in which an engine reads documents.

A clause is true (`Clause.isTrue`) as a two-valued tree over its parts is, with an unknown part
taken as false: only negations could tell the unknown from the false, and they stand in tests alone.
-/

namespace EntitySearch.Database

/-! ### Three values -/

/-- **The conjunction** of two truth values. -/
def bothTrue : Option Bool → Option Bool → Option Bool
  | some false, _ | _, some false => some false
  | some true, some true => some true
  | _, _ => none

/-- **The disjunction** of two truth values. -/
def eitherTrue : Option Bool → Option Bool → Option Bool
  | some true, _ | _, some true => some true
  | some false, some false => some false
  | _, _ => none

/-- A conjunction is true when both sides are. -/
theorem bothTrue_isTrue (a b : Option Bool) :
    (bothTrue a b == some true) = ((a == some true) && (b == some true)) := by
  rcases a with _ | _ | _ <;> rcases b with _ | _ | _ <;> rfl

/-- A disjunction is true when one side is. -/
theorem eitherTrue_isTrue (a b : Option Bool) :
    (eitherTrue a b == some true) = ((a == some true) || (b == some true)) := by
  rcases a with _ | _ | _ <;> rcases b with _ | _ | _ <;> rfl

/-- **Membership in a list**: the disjunction of the comparisons with its items. -/
def isAmong (value : Value) : List Parameter → Option Bool
  | [] => some false
  | item :: rest =>
    eitherTrue ((value.order? item.value).map Operation.equals.holdsOf) (isAmong value rest)

/-- A membership test decides as the disjunction of the comparisons. -/
theorem Test.memberTruth_eq (value : Value) (items : List Parameter) :
    memberTruth value items = isAmong value items := by
  induction items with
  | nil => rfl
  | cons item rest ih =>
    rw [isAmong, ← ih, memberTruth, memberTruth, List.map_cons, List.contains_cons,
      List.contains_cons]
    -- only what the first item and the others do on the whole matters
    generalize value.order? item.value = first
    generalize (rest.map fun item => value.order? item.value).contains (some .eq) = found
    generalize (rest.map fun item => value.order? item.value).contains none = unknown
    rcases first with _ | _ | _ | _ <;> cases found <;> cases unknown <;> rfl

/-! ### Views -/

/-- **What a clause can see of a row**: its entity type, the value at each path of its document,
and for each relation its elements, with the value at each path of an element. -/
structure View where
  entity : String
  document : Parameter → Value
  elements : Parameter → List (Parameter → Value)

/-- The value of a term in a row, within a search for the given element. -/
def Term.value (view : View) (element : Parameter → Value) : Term → Value
  | entity => .ofString view.entity
  | extract .document path => view.document path
  | extract .element path => element path

/-- **The truth of a clause** in a row, within a search for the given element. -/
def Clause.truth (view : View) (element : Parameter → Value) : Clause → Option Bool
  | constant value => some value
  | isNull negated term => some ((term.value view element == .null) != negated)
  | like negated term pattern =>
    Test.negatedIf negated <|
      match (term.value view element).patternText?, pattern.value.patternText? with
      | some text, some pattern =>
        some (Pattern.fits (fun a b => a.toLower == b.toLower) pattern text)
      | _, _ => none
  | oneOf negated term items => Test.negatedIf negated (isAmong (term.value view element) items)
  | compare operation term parameter =>
    ((term.value view element).order? parameter.value).map operation.holdsOf
  | someElement relation clause =>
    some ((view.elements relation).any fun element => clause.truth view element == some true)
  | and left right => bothTrue (left.truth view element) (right.truth view element)
  | or left right => eitherTrue (left.truth view element) (right.truth view element)

/-- **Whether a clause is true** of a row. No element is searched for. -/
def Clause.isTrue (view : View) (clause : Clause) : Bool :=
  clause.truth view (fun _ => .null) == some true

/-- Whether a fragment is read as a clause that is true of a row. -/
def Fragment.isTrue (view : View) (fragment : Fragment) : Bool :=
  fragment.clause?.any (·.isTrue view)

namespace Clause

variable {view : View}

/-- A conjunction is true when both sides are. -/
theorem isTrue_and (a b : Clause) : (and a b).isTrue view = (a.isTrue view && b.isTrue view) :=
  bothTrue_isTrue _ _

/-- A disjunction is true when one side is. -/
theorem isTrue_or (a b : Clause) : (or a b).isTrue view = (a.isTrue view || b.isTrue view) :=
  eitherTrue_isTrue _ _

/-- A conjunction of clauses that leans to the right. -/
def all : List Clause → Clause
  | [] => constant true
  | [single] => single
  | first :: next :: rest => and first (all (next :: rest))

/-- A disjunction of clauses that leans to the right. -/
def any : List Clause → Clause
  | [] => constant false
  | [single] => single
  | first :: next :: rest => or first (any (next :: rest))

theorem isTrue_all (clauses : List Clause) :
    (all clauses).isTrue view = clauses.all (isTrue view) := by
  induction clauses with
  | nil => rfl
  | cons first rest ih =>
    cases rest with
    | nil => exact (Bool.and_true _).symm
    | cons next rest =>
      rw [all, isTrue_and, ih]
      rfl

theorem isTrue_any (clauses : List Clause) :
    (any clauses).isTrue view = clauses.any (isTrue view) := by
  induction clauses with
  | nil => rfl
  | cons first rest ih =>
    cases rest with
    | nil => exact (Bool.or_false _).symm
    | cons next rest =>
      rw [any, isTrue_or, ih]
      rfl

end Clause

/-! ### Clauses of conditions and filters -/

/-- The clause of a test of a term. -/
def Test.clause (term : Term) : Test → Clause
  | isNull => .isNull false term
  | isNotNull => .isNull true term
  | like negated pattern => .like negated term (.text pattern)
  | oneOf negated items => .oneOf negated term items
  | compare operation parameter => .compare operation term parameter

namespace Condition

/-- The clause of a condition. -/
def clause : Condition → Clause
  | always => .constant true
  | never => .constant false
  | direct path test => test.clause (.extract .document (.text (pathText path)))
  | related relation path test =>
    .someElement (.text (pathText [relation]))
      ((test.map (Test.clause (.extract .element (.text (pathText path))))).getD (.constant false))

/-- **Whether a condition is true** of a row: its test is true of the value at its path, or of the
value in some element. -/
def isTrueIn (view : View) : Condition → Bool
  | always => true
  | never => false
  | direct path test => test.truth (view.document (.text (pathText path))) == some true
  | related relation path test =>
    (view.elements (.text (pathText [relation]))).any fun element =>
      test.any fun test => test.truth (element (.text (pathText path))) == some true

end Condition

/-- The clause of a test has the truth of the test. -/
theorem Test.truth_clause (view : View) (element : Parameter → Value) (term : Term) (test : Test) :
    (test.clause term).truth view element = test.truth (term.value view element) := by
  cases test with
  | isNull => exact congrArg some (Bool.bne_false _)
  | isNotNull => exact congrArg some (Bool.bne_true _)
  | like negated pattern =>
    -- a value without a text makes the clause unknown, as it does the test
    change Test.negatedIf negated _ = Test.negatedIf negated _
    congr 1
    change (match (term.value view element).patternText?, some _ with
      | some text, some pattern =>
        some (Pattern.fits (fun a b => a.toLower == b.toLower) pattern text)
      | _, _ => none) = _
    cases (term.value view element).patternText? <;> rfl
  | oneOf negated items => exact congrArg (Test.negatedIf negated) (memberTruth_eq _ _).symm
  | compare operation parameter => rfl

/-- The clause of a condition is true where the condition is. -/
theorem Condition.isTrue_clause (view : View) (condition : Condition) :
    condition.clause.isTrue view = condition.isTrueIn view := by
  cases condition with
  | always | never => rfl
  | direct path test => exact congrArg (· == some true) (test.truth_clause view _ _)
  | related relation path test =>
    -- the clause is tested for each element on its own
    rw [clause, Clause.isTrue, Clause.truth, isTrueIn, Option.some_beq_some, beq_true]
    congr 1
    funext element
    cases test with
    | none => rfl
    | some test => exact congrArg (· == some true) (test.truth_clause view element _)

mutual

/-- **The clause of a filter.** -/
def Clause.ofFilter : Filter Condition → Clause
  | .all => .constant true
  | .leaf condition => condition.clause
  | .and children => .all (Clause.ofFilters children)
  | .or children => .any (Clause.ofFilters children)

/-- The clauses of a list of filters. -/
def Clause.ofFilters : List (Filter Condition) → List Clause
  | [] => []
  | child :: rest => Clause.ofFilter child :: Clause.ofFilters rest

end

theorem Clause.ofFilters_eq_map (children : List (Filter Condition)) :
    ofFilters children = children.map ofFilter := by
  induction children with
  | nil => rfl
  | cons child rest ih => rw [ofFilters, ih, List.map_cons]

/-- **The clause of a filter is true where the filter holds** of the conditions that are true. -/
theorem Clause.isTrue_ofFilter (view : View) (filter : Filter Condition) :
    (ofFilter filter).isTrue view = filter.holds (Condition.isTrueIn view) := by
  induction filter using Filter.induct with
  | all => rfl
  | leaf condition => exact condition.isTrue_clause view
  | and children ih =>
    rw [ofFilter, isTrue_all, ofFilters_eq_map, List.all_map, Filter.holds_and, Bool.eq_iff_iff,
      List.all_eq_true, List.all_eq_true]
    exact forall₂_congr fun child mem => by rw [Function.comp_apply, ih child mem]
  | or children ih =>
    rw [ofFilter, isTrue_any, ofFilters_eq_map, List.any_map, Filter.holds_or, Bool.eq_iff_iff,
      List.any_eq_true, List.any_eq_true]
    refine exists_congr fun child => and_congr_right fun mem => ?_
    rw [Function.comp_apply, ih child mem]

end EntitySearch.Database
