import EntitySearch.Proofs.Database.Clauses.Tokens

/-!
# Reading clauses

A reader for the language of clauses, by recursive descent over tokens. A clause is a chain of
conjunctions with `OR` between them, a conjunction a chain of operands with `AND` between them, and
an operand is a clause in parentheses, a search for an element, a constant or a test. So `AND` binds
tighter than `OR`, and parentheses bind tightest. The reader knows the part of the language that it
needs, and reads nothing else.

`IsOperand`, `IsConjunction` and `IsClause` say that some tokens are read as a clause at one of the
three levels, whatever stands behind them that cannot go on with the chain. They are closed under
the ways in which clauses are put together: an operand is a conjunction, a conjunction a clause, a
clause in parentheses is an operand, and chains grow at their front.
-/

namespace EntitySearch.Database

/-! ### Clauses -/

/-- **Where a value is extracted from**: the document of a row, or an element of a relation. -/
inductive Source where
  | document
  | element
  deriving DecidableEq, Repr

/-- **A term**: the entity type of a row, or the value at a path. -/
inductive Term where
  | entity
  | extract (source : Source) (path : Parameter)
  deriving DecidableEq, Repr

/-- **A clause** as it is understood, with its parameters in their places. -/
inductive Clause where
  | constant (value : Bool)
  | isNull (negated : Bool) (term : Term)
  | like (negated : Bool) (term : Term) (pattern : Parameter)
  | oneOf (negated : Bool) (term : Term) (items : List Parameter)
  | compare (operation : Operation) (term : Term) (parameter : Parameter)
  | someElement (relation : Parameter) (clause : Clause)
  | and (left right : Clause)
  | or (left right : Clause)
  deriving DecidableEq, Repr

/-! ### Readers -/

/-- What stands behind an expected word. -/
def after? (spelling : String) : List Token → Option (List Token)
  | .word other :: rest => if other = spelling then some rest else none
  | _ => none

/-- What stands behind some expected words. -/
def afterAll? : List String → List Token → Option (List Token)
  | [], tokens => some tokens
  | spelling :: others, tokens => (after? spelling tokens).bind (afterAll? others)

/-- Reads a place. -/
def readPlace : List Token → Option (Parameter × List Token)
  | .place parameter :: rest => some (parameter, rest)
  | _ => none

/-- Reads a list with commas between its entries. -/
def readList {α : Type} (read : List Token → Option (α × List Token)) :
    Nat → List Token → Option (List α × List Token)
  | 0, _ => none
  | fuel + 1, tokens => do
    let (first, tokens) ← read tokens
    match after? "," tokens with
    | some tokens => do
      let (others, tokens) ← readList read fuel tokens
      some (first :: others, tokens)
    | none => some ([first], tokens)

/-- Reads the name of a column that holds documents or elements. -/
def readSource (tokens : List Token) : Option (Source × List Token) :=
  match after? "e.data" tokens with
  | some tokens => some (.document, tokens)
  | none => (after? "j.value" tokens).map (.element, ·)

/-- Reads the value at a path. -/
def readExtract (tokens : List Token) : Option (Term × List Token) := do
  let tokens ← afterAll? ["json_extract", "("] tokens
  let (source, tokens) ← readSource tokens
  let tokens ← after? "," tokens
  let (path, tokens) ← readPlace tokens
  let tokens ← after? ")" tokens
  some (.extract source path, tokens)

/-- Reads a term. -/
def readTerm (tokens : List Token) : Option (Term × List Token) :=
  match after? "e.entity_type" tokens with
  | some tokens => some (.entity, tokens)
  | none => readExtract tokens

/-- The signs of comparisons. -/
def signs : List (String × Operation) :=
  [("=", .equals), ("!=", .notEquals), (">", .greater), (">=", .greaterEqual), ("<", .less),
    ("<=", .lessEqual)]

/-- Reads the sign of a comparison. -/
def readSign : List Token → Option (Operation × List Token)
  | .word spelling :: rest => (signs.lookup spelling).map (·, rest)
  | _ => none

/-- Reads a negation, if there is one. -/
def readNot (tokens : List Token) : Bool × List Token :=
  match after? "NOT" tokens with
  | some tokens => (true, tokens)
  | none => (false, tokens)

/-- Reads the items of a membership test up to the closing parenthesis. -/
def readItems (tokens : List Token) : Option (List Parameter × List Token) :=
  match after? ")" tokens with
  | some tokens => some ([], tokens)
  | none => do
    let (items, tokens) ← readList readPlace tokens.length tokens
    let tokens ← after? ")" tokens
    some (items, tokens)

/-- Reads a test with a pattern or a list. -/
def readMatch (term : Term) (tokens : List Token) : Option (Clause × List Token) :=
  let (negated, tokens) := readNot tokens
  match after? "LIKE" tokens with
  | some tokens => do
    let (pattern, tokens) ← readPlace tokens
    some (.like negated term pattern, tokens)
  | none => do
    let tokens ← afterAll? ["IN", "("] tokens
    let (items, tokens) ← readItems tokens
    some (.oneOf negated term items, tokens)

/-- Reads the test of a term. -/
def readTest (term : Term) (tokens : List Token) : Option (Clause × List Token) :=
  match after? "IS" tokens with
  | some tokens => do
    let (negated, tokens) := readNot tokens
    let tokens ← after? "NULL" tokens
    some (.isNull negated term, tokens)
  | none =>
    match readSign tokens with
    | some (operation, tokens) => do
      let (parameter, tokens) ← readPlace tokens
      some (.compare operation term parameter, tokens)
    | none => readMatch term tokens

/-- Reads a constant. -/
def readConstant (tokens : List Token) : Option (Clause × List Token) :=
  match after? "1" tokens with
  | some tokens => some (.constant true, tokens)
  | none => (after? "0" tokens).map (.constant false, ·)

/-- Reads a constant or a test. -/
def readAtom (tokens : List Token) : Option (Clause × List Token) :=
  match readConstant tokens with
  | some constant => some constant
  | none => do
    let (term, tokens) ← readTerm tokens
    readTest term tokens

mutual

/-- **Reading a clause**: conjunctions with `OR` between them. -/
def readClause : Nat → List Token → Option (Clause × List Token)
  | 0, _ => none
  | fuel + 1, tokens => do
    let (left, tokens) ← readConjunction fuel tokens
    match after? "OR" tokens with
    | some tokens => do
      let (right, tokens) ← readClause fuel tokens
      some (.or left right, tokens)
    | none => some (left, tokens)

/-- Reading a conjunction: operands with `AND` between them. -/
def readConjunction : Nat → List Token → Option (Clause × List Token)
  | 0, _ => none
  | fuel + 1, tokens => do
    let (left, tokens) ← readOperand fuel tokens
    match after? "AND" tokens with
    | some tokens => do
      let (right, tokens) ← readConjunction fuel tokens
      some (.and left right, tokens)
    | none => some (left, tokens)

/-- Reading an operand: a clause in parentheses, a search for an element, a constant or a test. -/
def readOperand : Nat → List Token → Option (Clause × List Token)
  | 0, _ => none
  | fuel + 1, tokens =>
    match after? "(" tokens with
    | some tokens => do
      let (clause, tokens) ← readClause fuel tokens
      let tokens ← after? ")" tokens
      some (clause, tokens)
    | none =>
      match after? "EXISTS" tokens with
      | some tokens => do
        let tokens ←
          afterAll? ["(", "SELECT", "1", "FROM", "json_each", "(", "e.data", ","] tokens
        let (relation, tokens) ← readPlace tokens
        let tokens ← afterAll? [")", "AS", "j", "WHERE"] tokens
        let (clause, tokens) ← readClause fuel tokens
        let tokens ← after? ")" tokens
        some (.someElement relation clause, tokens)
      | none => readAtom tokens

end

/-- **The clause that all of some tokens are read as.** Three steps for every token are enough. -/
def Clause.ofTokens? (tokens : List Token) : Option Clause :=
  match readClause (3 * tokens.length + 3) tokens with
  | some (clause, []) => some clause
  | _ => none

/-- **The clause that a fragment is read as.** -/
def Fragment.clause? (fragment : Fragment) : Option Clause :=
  fragment.tokens?.bind Clause.ofTokens?

/-! ### What is read -/

/-- Whether tokens are read as an operand, whatever follows. -/
def IsOperand (tokens : List Token) (clause : Clause) : Prop :=
  ∀ fuel rest, 3 * (tokens ++ rest).length < fuel →
    readOperand fuel (tokens ++ rest) = some (clause, rest)

/-- Whether tokens are read as a conjunction, if no further conjunct follows. -/
def IsConjunction (tokens : List Token) (clause : Clause) : Prop :=
  ∀ fuel rest, 3 * (tokens ++ rest).length + 1 < fuel → after? "AND" rest = none →
    readConjunction fuel (tokens ++ rest) = some (clause, rest)

/-- **Whether tokens are read as a clause**, if neither a conjunct nor a disjunct follows. -/
def IsClause (tokens : List Token) (clause : Clause) : Prop :=
  ∀ fuel rest, 3 * (tokens ++ rest).length + 2 < fuel → after? "AND" rest = none →
    after? "OR" rest = none → readClause fuel (tokens ++ rest) = some (clause, rest)

section Levels

variable {s t : List Token} {a b : Clause}

/-- An atom is an operand, if it starts with neither a parenthesis nor a search. -/
theorem IsOperand.of_atom (read : ∀ rest, readAtom (s ++ rest) = some (a, rest))
    (plain : ∀ rest, after? "(" (s ++ rest) = none)
    (direct : ∀ rest, after? "EXISTS" (s ++ rest) = none) : IsOperand s a := by
  intro fuel rest enough
  cases fuel with
  | zero => omega
  | succ fuel =>
    rw [readOperand, plain rest]
    dsimp only
    rw [direct rest]
    exact read rest

/-- An operand is a conjunction. -/
theorem IsOperand.conjunction (operand : IsOperand s a) : IsConjunction s a := by
  intro fuel rest enough last
  cases fuel with
  | zero => omega
  | succ fuel =>
    rw [readConjunction, operand fuel rest (by omega), Option.bind_eq_bind, Option.bind_some]
    dsimp only
    rw [last]

/-- A conjunction is a clause. -/
theorem IsConjunction.clause (conjunction : IsConjunction s a) : IsClause s a := by
  intro fuel rest enough noConjunct noDisjunct
  cases fuel with
  | zero => omega
  | succ fuel =>
    rw [readClause, conjunction fuel rest (by omega) noConjunct, Option.bind_eq_bind,
      Option.bind_some]
    dsimp only
    rw [noDisjunct]

/-- A conjunction can have an operand in front. -/
theorem IsOperand.and (left : IsOperand s a) (right : IsConjunction t b) :
    IsConjunction (s ++ .word "AND" :: t) (.and a b) := by
  intro fuel rest enough last
  rw [List.append_assoc] at enough ⊢
  rw [List.length_append, List.cons_append, List.length_cons] at enough
  cases fuel with
  | zero => omega
  | succ fuel =>
    -- the operand reads up to the `AND`, whatever follows, and the rest is the other chain
    have first : readOperand fuel (s ++ .word "AND" :: (t ++ rest)) =
        some (a, .word "AND" :: (t ++ rest)) := by
      refine left fuel _ ?_
      rw [List.length_append, List.length_cons]
      omega
    have others : readConjunction fuel (t ++ rest) = some (b, rest) :=
      right fuel rest (by omega) last
    rw [readConjunction, List.cons_append, first, Option.bind_eq_bind, Option.bind_some]
    change (readConjunction fuel (t ++ rest) >>= _) = _
    rw [others]
    rfl

/-- A clause can have a conjunction in front. -/
theorem IsConjunction.or (left : IsConjunction s a) (right : IsClause t b) :
    IsClause (s ++ .word "OR" :: t) (.or a b) := by
  intro fuel rest enough noConjunct noDisjunct
  rw [List.append_assoc] at enough ⊢
  rw [List.length_append, List.cons_append, List.length_cons] at enough
  cases fuel with
  | zero => omega
  | succ fuel =>
    -- a conjunction ends in front of an `OR`, because that does not go on with its chain
    have first : readConjunction fuel (s ++ .word "OR" :: (t ++ rest)) =
        some (a, .word "OR" :: (t ++ rest)) := by
      refine left fuel _ ?_ rfl
      rw [List.length_append, List.length_cons]
      omega
    have others : readClause fuel (t ++ rest) = some (b, rest) :=
      right fuel rest (by omega) noConjunct noDisjunct
    rw [readClause, List.cons_append, first, Option.bind_eq_bind, Option.bind_some]
    change (readClause fuel (t ++ rest) >>= _) = _
    rw [others]
    rfl

/-- **A clause in parentheses is an operand.** -/
theorem IsClause.enclosed (clause : IsClause s a) :
    IsOperand (.word "(" :: (s ++ [.word ")"])) a := by
  intro fuel rest enough
  have shape : .word "(" :: (s ++ [.word ")"]) ++ rest = .word "(" :: (s ++ .word ")" :: rest) := by
    rw [List.cons_append, List.append_assoc]
    rfl
  rw [shape] at enough ⊢
  rw [List.length_cons] at enough
  cases fuel with
  | zero => omega
  | succ fuel =>
    -- a closing parenthesis goes on with no chain, so the clause ends in front of it
    have inner : readClause fuel (s ++ .word ")" :: rest) = some (a, .word ")" :: rest) :=
      clause fuel _ (by omega) rfl rfl
    rw [readOperand]
    change (readClause fuel (s ++ .word ")" :: rest) >>= _) = _
    rw [inner]
    rfl

/-- The tokens in front of the clause of a search for an element. -/
def searchStart (relation : Parameter) : List Token :=
  [.word "EXISTS", .word "(", .word "SELECT", .word "1", .word "FROM", .word "json_each",
    .word "(", .word "e.data", .word ",", .place relation, .word ")", .word "AS", .word "j",
    .word "WHERE"]

/-- **A search for an element** with a clause is an operand. -/
theorem IsClause.searched (clause : IsClause s a) (relation : Parameter) :
    IsOperand (searchStart relation ++ (s ++ [.word ")"])) (.someElement relation a) := by
  intro fuel rest enough
  rw [List.append_assoc, List.append_assoc] at enough ⊢
  -- the tokens in front count for the fuel that is left for the clause
  have counted : (searchStart relation).length = 14 := rfl
  rw [List.length_append, counted] at enough
  cases fuel with
  | zero => omega
  | succ fuel =>
    have inner : readClause fuel (s ++ ([.word ")"] ++ rest)) = some (a, .word ")" :: rest) :=
      clause fuel _ (by omega) rfl rfl
    rw [readOperand]
    change (readClause fuel (s ++ ([.word ")"] ++ rest)) >>= _) = _
    rw [inner]
    rfl

/-- Tokens that are a clause are read to their end. -/
theorem IsClause.ofTokens (clause : IsClause s a) : Clause.ofTokens? s = some a := by
  have all : readClause (3 * s.length + 3) (s ++ []) = some (a, []) :=
    clause _ [] (by rw [List.append_nil]; omega) rfl rfl
  rw [List.append_nil] at all
  rw [Clause.ofTokens?, all]

/-- A list is read if its entries are, each in front of a comma or of what follows the list. -/
theorem readList_intercalate {α : Type} {read : List Token → Option (α × List Token)}
    (stops : List Token → Prop) {tokens : List (List Token)} {values : List α} {rest : List Token}
    {fuel : Nat} (nonempty : tokens ≠ []) (enough : tokens.length ≤ fuel)
    (last : after? "," rest = none) (comma : ∀ rest, stops (.word "," :: rest))
    (behind : stops rest)
    (each : List.Forall₂ (fun s a => ∀ rest, stops rest → read (s ++ rest) = some (a, rest))
      tokens values) :
    readList read fuel ([.word ","].intercalate tokens ++ rest) = some (values, rest) := by
  induction each generalizing fuel with
  | nil => exact absurd rfl nonempty
  | @cons s a tokens values head tail ih =>
    -- behind the first entry stands what follows the list, or a comma with the other entries
    cases fuel with
    | zero => cases enough
    | succ fuel =>
      cases tail with
      | nil =>
        -- no comma follows, so the list ends here
        rw [List.intercalate_singleton, readList, head rest behind, Option.bind_eq_bind,
          Option.bind_some]
        dsimp only
        rw [last]
      | @cons t b tokens values next tail =>
        -- a comma follows, and the other entries are a list with one step less
        have others := ih (List.cons_ne_nil _ _) (Nat.le_of_succ_le_succ enough)
        rw [List.intercalate_cons_cons, List.append_assoc, List.append_assoc,
          List.singleton_append, readList, head _ (comma _), Option.bind_eq_bind, Option.bind_some]
        change (readList read fuel ([.word ","].intercalate (t :: tokens) ++ rest) >>= _) = _
        rw [others]
        rfl

end Levels

end EntitySearch.Database
