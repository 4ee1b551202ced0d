import EntitySearch.Proofs.Database.Clauses.Meaning

/-!
# The text of conditions and filters

The text of a condition is read as its clause, and the text of a filter as the clause of the filter
(`isReadAs_fragment`). A single fragment in a conjunction or a disjunction stands without
parentheses, so a fragment can be a chain of either kind; it is put into parentheses before it
becomes part of another chain, and so every fragment is read as a clause on its own
(`Fragment.IsReadAs`) and as an operand inside of a chain.

The one proviso is that a comparison has one of the six signs. Comparisons make no other tests
(`isSpelled_ofComparison`).
-/

namespace EntitySearch

namespace Database

/-- **Whether a fragment is read as a clause**, with a parameter for each of its places. -/
def Fragment.IsReadAs (fragment : Fragment) (clause : Clause) : Prop :=
  ∃ tokens, fragment.tokens? = some tokens ∧ IsClause tokens clause

theorem Fragment.IsReadAs.clause_eq {fragment : Fragment} {clause : Clause}
    (read : fragment.IsReadAs clause) : fragment.clause? = some clause := by
  obtain ⟨tokens, found, all⟩ := read
  rw [Fragment.clause?, found]
  exact all.ofTokens

/-! ### Tests -/

/-- The column that a source stands for. -/
def Source.column : Source → String
  | document => "e.data"
  | element => "j.value"

/-- The tokens of the value at a path. -/
def extractTokens (source : Source) (path : Parameter) : List Token :=
  [.word "json_extract", .word "(", .word source.column, .word ",", .place path, .word ")"]

/-- The tokens of a negation. -/
def notTokens (negated : Bool) : List Token := if negated then [.word "NOT"] else []

/-- The tokens of a list of places. -/
def itemTokens (items : List Parameter) : List Token :=
  [.word ","].intercalate (items.map fun item => [.place item])

/-- The fragment of a list of places. -/
def itemFragment (items : List Parameter) : Fragment :=
  .separated ", " (items.map fun item => ⟨"?", [item]⟩)

namespace Test

/-- The tokens of a test behind its term. -/
def tokens : Test → List Token
  | isNull => [.word "IS", .word "NULL"]
  | isNotNull => [.word "IS", .word "NOT", .word "NULL"]
  | like negated pattern => notTokens negated ++ [.word "LIKE", .place (.text pattern)]
  | oneOf negated items =>
    notTokens negated ++ .word "IN" :: .word "(" :: (itemTokens items ++ [.word ")"])
  | compare operation parameter => [.word (symbol operation), .place parameter]

/-- The fragment of a test behind its term. -/
def ending : Test → Fragment
  | isNull => .plain "IS NULL"
  | isNotNull => .plain "IS NOT NULL"
  | like negated pattern => ⟨keyword negated "LIKE" ++ " ?", [.text pattern]⟩
  | oneOf negated items =>
    .plain (keyword negated "IN" ++ " (") ++ (itemFragment items ++ .plain ")")
  | compare operation parameter => ⟨symbol operation ++ " ?", [parameter]⟩

/-- Whether a comparison has a sign of its own. -/
def isSpelled : Test → Bool
  | compare operation _ => signs.any fun sign => sign.2 = operation
  | _ => true

/-- The fragment of the value at a path. -/
def start (source : String) (path : List String) : Fragment :=
  ⟨"json_extract(" ++ source ++ ", ?) ", [.text (pathText path)]⟩

theorem flatMap_items (items : List Parameter) :
    (items.map fun item => (⟨"?", [item]⟩ : Fragment)).flatMap Fragment.parameters = items := by
  rw [List.flatMap_map]
  exact List.flatMap_singleton' items

theorem fragment_eq (source : String) (path : List String) (test : Test) :
    test.fragment source path = start source path ++ test.ending := by
  cases test with
  | isNull | isNotNull => rfl
  | like _ _ | compare _ _ =>
    change Fragment.mk _ _ = Fragment.mk _ _
    rw [String.append_assoc]
    rfl
  | oneOf negated items =>
    change Fragment.mk _ _ = Fragment.mk _ _
    congr 1
    · -- the texts are joined in another order
      change _ = _ ++ (keyword negated "IN" ++ " (" ++ ((itemFragment items).text ++ ")"))
      have places : (itemFragment items).text = Text.joined ", " (items.map fun _ => "?") := by
        rw [itemFragment, Fragment.separated, List.map_map]
        rfl
      rw [places]
      simp only [start, String.append_assoc]
    · -- the path comes before the items
      change _ = [Parameter.text (pathText path)] ++ ([] ++ ((itemFragment items).parameters ++ []))
      rw [List.nil_append, List.append_nil, itemFragment, Fragment.separated, flatMap_items]
      rfl

variable {test : Test}

theorem tokens_item (item : Parameter) :
    (⟨"?", [item]⟩ : Fragment).tokens? = some [.place item] := by
  cbv

/-- The tokens of a list of places are read from its fragment. -/
theorem tokens_itemFragment (items : List Parameter) :
    (itemFragment items).tokens? = some (itemTokens items) := by
  refine Fragment.tokens_separated (c := ',') (d := ' ') rfl ⟨rfl, rfl⟩ ⟨rfl, rfl⟩ ?_
  rw [List.forall₂_map_left_iff, List.forall₂_map_right_iff]
  exact List.forall₂_same.2 fun item _ => tokens_item item

/-- The tokens of a test behind its term are read from its fragment. -/
theorem tokens_ending (spelled : test.isSpelled) : test.ending.tokens? = some test.tokens := by
  cases test with
  | isNull | isNotNull => rfl
  | like negated pattern => cases negated <;> cbv
  | oneOf negated items =>
    have opened : (Fragment.plain (keyword negated "IN" ++ " (")).tokens? =
        some (notTokens negated ++ [.word "IN", .word "("]) := by cases negated <;> cbv
    -- both parentheses are breaks, so neither runs into its neighbours
    have bracket : (keyword negated "IN" ++ " (").toList.getLast? = some '(' := by
      cases negated <;> cbv
    have closed : (itemFragment items ++ .plain ")").tokens? =
        some (itemTokens items ++ [.word ")"]) :=
      Fragment.tokens_append (tokens_itemFragment items) rfl (apart_of_head? (c := ')') rfl rfl _)
    have all := Fragment.tokens_append opened closed (apart_of_getLast? bracket rfl _)
    rw [List.append_assoc] at all
    exact all
  | compare operation parameter =>
    cases operation with
    | equals | notEquals | greater | greaterEqual | less | lessEqual => cbv
    | like | notLike | oneOf | noneOf | isNull | isNotNull => cases spelled

/-- The tokens of the value at a path are read from its fragment. -/
theorem tokens_start (source : Source) (path : Parameter) :
    (⟨"json_extract(" ++ source.column ++ ", ?) ", [path]⟩ : Fragment).tokens? =
      some (extractTokens source path) := by cases source <;> cbv

/-- The tokens of a test are read from its fragment. -/
theorem tokens_fragment (source : Source) (path : List String) (spelled : test.isSpelled) :
    (test.fragment source.column path).tokens? =
      some (extractTokens source (.text (pathText path)) ++ test.tokens) := by
  rw [fragment_eq]
  have blank : (start source.column path).text.toList.getLast? = some ' ' := by
    cases source <;> cbv
  exact Fragment.tokens_append (tokens_start source _) (tokens_ending spelled)
    (apart_of_getLast? blank rfl _)

theorem length_le_itemTokens (items : List Parameter) :
    items.length ≤ (itemTokens items).length := by
  induction items with
  | nil => exact Nat.le_refl 0
  | cons item rest ih =>
    cases rest with
    | nil => exact Nat.le_refl 1
    | cons next rest =>
      -- every further item brings a comma besides its place
      have split : itemTokens (item :: next :: rest) =
          .place item :: .word "," :: itemTokens (next :: rest) := List.intercalate_cons_cons
      rw [split]
      exact Nat.succ_le_succ (Nat.le_succ_of_le ih)

/-- The items of a membership test are read from their tokens. -/
theorem readItems_itemTokens (items : List Parameter) (rest : List Token) :
    readItems (itemTokens items ++ .word ")" :: rest) = some (items, rest) := by
  cases items with
  | nil => rfl
  | cons item others =>
    -- with an item in it the list does not close at once
    have open_ : after? ")" (itemTokens (item :: others) ++ .word ")" :: rest) = none := by
      cases others <;> rfl
    -- every item is one place, whatever follows it
    have each : List.Forall₂ (fun s a => ∀ rest, True → readPlace (s ++ rest) = some (a, rest))
        ((item :: others).map fun item => [Token.place item]) (item :: others) := by
      rw [List.forall₂_map_left_iff]
      exact List.forall₂_same.2 fun _ _ _ _ => rfl
    have enough : ((item :: others).map fun item => [Token.place item]).length ≤
        (itemTokens (item :: others) ++ .word ")" :: rest).length := by
      rw [List.length_map, List.length_append]
      exact Nat.le_add_right_of_le (length_le_itemTokens _)
    have read : readList readPlace _ (itemTokens (item :: others) ++ .word ")" :: rest) =
        some (item :: others, .word ")" :: rest) :=
      readList_intercalate (fun _ => True) (List.cons_ne_nil _ _) enough rfl (fun _ => trivial)
        trivial each
    rw [readItems, open_]
    change (readList readPlace _ _ >>= _) = _
    rw [read]
    rfl

/-- A test is read from its tokens. -/
theorem readTest_tokens (term : Term) (spelled : test.isSpelled) (rest : List Token) :
    readTest term (test.tokens ++ rest) = some (test.clause term, rest) := by
  cases test with
  | isNull | isNotNull => rfl
  | like negated pattern => cases negated <;> rfl
  | oneOf negated items =>
    have shape : (oneOf negated items).tokens ++ rest = notTokens negated ++
        .word "IN" :: .word "(" :: (itemTokens items ++ .word ")" :: rest) := by
      simp only [tokens, List.append_assoc, List.cons_append, List.nil_append]
    -- behind its keyword a membership test is its list
    have read := readItems_itemTokens items rest
    rw [shape]
    cases negated with
    | false | true =>
      change (readItems (itemTokens items ++ .word ")" :: rest) >>= _) = _
      rw [read]
      rfl
  | compare operation parameter =>
    cases operation with
    | equals | notEquals | greater | greaterEqual | less | lessEqual => rfl
    | like | notLike | oneOf | noneOf | isNull | isNotNull => cases spelled

/-- **A test is read as an operand.** -/
theorem isOperand_tokens (source : Source) (path : Parameter) (spelled : test.isSpelled) :
    IsOperand (extractTokens source path ++ test.tokens) (test.clause (.extract source path)) := by
  refine IsOperand.of_atom (fun rest => ?_) (fun rest => rfl) fun rest => rfl
  rw [List.append_assoc]
  have read := readTest_tokens (.extract source path) spelled rest
  cases source with
  | document | element =>
    change readTest _ (test.tokens ++ rest) = _
    exact read

end Test

/-! ### Conditions -/

/-- Whether all comparisons of a condition have signs. -/
def Condition.isSpelled : Condition → Bool
  | always | never => true
  | direct _ test => test.isSpelled
  | related _ _ test => test.all Test.isSpelled

/-- A constant is read as it is. -/
theorem isReadAs_constant (value : Bool) :
    Fragment.IsReadAs (if value then .always else .never) (.constant value) := by
  cases value with
  | true =>
    refine ⟨[.word "1"], rfl, IsConjunction.clause (IsOperand.conjunction ?_)⟩
    exact IsOperand.of_atom (fun _ => rfl) (fun _ => rfl) fun _ => rfl
  | false =>
    refine ⟨[.word "0"], rfl, IsConjunction.clause (IsOperand.conjunction ?_)⟩
    exact IsOperand.of_atom (fun _ => rfl) (fun _ => rfl) fun _ => rfl

/-- A test is read as its clause. -/
theorem isReadAs_test {test : Test} (source : Source) (path : List String)
    (spelled : test.isSpelled) :
    (test.fragment source.column path).IsReadAs
      (test.clause (.extract source (.text (pathText path)))) :=
  ⟨_, Test.tokens_fragment source path spelled,
    (Test.isOperand_tokens source _ spelled).conjunction.clause⟩

/-- A search for an element is read with what it searches for. -/
theorem Fragment.IsReadAs.searched {inner : Fragment} {clause : Clause}
    (read : inner.IsReadAs clause) (relation : Parameter) :
    Fragment.IsReadAs
      ⟨"EXISTS (SELECT 1 FROM json_each(e.data, ?) AS j WHERE " ++ inner.text ++ ")",
        relation :: inner.parameters⟩
      (.someElement relation clause) := by
  obtain ⟨tokens, found, all⟩ := read
  refine ⟨_, ?_, (all.searched relation).conjunction.clause⟩
  let start : Fragment := ⟨"EXISTS (SELECT 1 FROM json_each(e.data, ?) AS j WHERE ", [relation]⟩
  have closed : (inner ++ Fragment.plain ")").tokens? = some (tokens ++ [.word ")"]) :=
    tokens_append found rfl (apart_of_head? (c := ')') rfl rfl _)
  have opened : start.tokens? = some (searchStart relation) := by cbv
  -- a blank ends the words in front of the clause, and a parenthesis the clause
  have blank : start.text.toList.getLast? = some ' ' := by cbv
  have whole : (start ++ (inner ++ Fragment.plain ")")).tokens? =
      some (searchStart relation ++ (tokens ++ [.word ")"])) :=
    tokens_append opened closed (apart_of_getLast? blank rfl _)
  have same : Fragment.mk (start.text ++ inner.text ++ ")") (relation :: inner.parameters) =
      start ++ (inner ++ Fragment.plain ")") := by
    change _ =
      Fragment.mk (start.text ++ (inner.text ++ ")")) (relation :: (inner.parameters ++ []))
    rw [String.append_assoc, List.append_nil]
  rw [← whole, ← same]

/-- **A condition is read as its clause.** -/
theorem isReadAs_condition {condition : Condition} (spelled : condition.isSpelled) :
    condition.fragment.IsReadAs condition.clause := by
  cases condition with
  | always => exact isReadAs_constant true
  | never => exact isReadAs_constant false
  | direct path test => exact isReadAs_test .document path spelled
  | related relation path test =>
    cases test with
    | none => exact (isReadAs_constant false).searched _
    | some test => exact (isReadAs_test .element path spelled).searched _

/-- **A comparison makes a condition that is spelled out.** -/
theorem isSpelled_ofComparison (comparison : Comparison) :
    (Condition.ofComparison comparison).isSpelled := by
  obtain ⟨target, operation, value⟩ := comparison
  -- only the six comparisons have a symbol, and no test is made of other operations by comparing
  have tested : (Test.ofOperation operation value).all Test.isSpelled := by
    cases operation with
    | like | notLike | oneOf | noneOf | isNull | isNotNull => rfl
    | equals | notEquals | greater | greaterEqual | less | lessEqual =>
      change Option.all _ (if value.isNull then none else some _) = true
      cases value.isNull <;> rfl
  unfold Condition.ofComparison
  split
  · rfl
  · rfl
  · -- the condition has the test of its operation, or is the constant for null
    dsimp only
    cases target.manyJoin? with
    | some join => exact tested
    | none =>
      cases found : Test.ofOperation operation value with
      | none => rfl
      | some test =>
        rw [found] at tested
        exact tested

/-! ### Chains -/

section Chains

variable {parts : List Fragment} {clauses : List Clause} {tokens : List (List Token)}

/-- Operands with `AND` between them are a conjunction. -/
theorem isConjunction_intercalate (nonempty : tokens ≠ [])
    (each : List.Forall₂ IsOperand tokens clauses) :
    IsConjunction ([.word "AND"].intercalate tokens) (Clause.all clauses) := by
  induction each with
  | nil => exact absurd rfl nonempty
  | @cons s a tokens clauses head tail ih =>
    cases tail with
    | nil =>
      rw [List.intercalate_singleton]
      exact head.conjunction
    | cons next tail =>
      rw [List.intercalate_cons_cons, List.append_assoc]
      exact head.and (ih (List.cons_ne_nil _ _))

/-- Operands with `OR` between them are a clause. -/
theorem isClause_intercalate (nonempty : tokens ≠ [])
    (each : List.Forall₂ IsOperand tokens clauses) :
    IsClause ([.word "OR"].intercalate tokens) (Clause.any clauses) := by
  induction each with
  | nil => exact absurd rfl nonempty
  | @cons s a tokens clauses head tail ih =>
    cases tail with
    | nil =>
      rw [List.intercalate_singleton]
      exact head.conjunction.clause
    | cons next tail =>
      rw [List.intercalate_cons_cons, List.append_assoc]
      exact head.conjunction.or (ih (List.cons_ne_nil _ _))

/-- Fragments in parentheses are read as operands. -/
theorem exists_operands (each : List.Forall₂ Fragment.IsReadAs parts clauses) :
    ∃ tokens, List.Forall₂ (fun part tokens => part.tokens? = some tokens)
        (parts.map Fragment.enclosed) tokens ∧ List.Forall₂ IsOperand tokens clauses := by
  induction each with
  | nil => exact ⟨[], .nil, .nil⟩
  | cons head tail ih =>
    obtain ⟨first, found, read⟩ := head
    obtain ⟨others, founds, reads⟩ := ih
    exact ⟨_, .cons (Fragment.tokens_enclosed found) founds, .cons read.enclosed reads⟩

/-- Clauses with an operator are fragments in parentheses with a separator. -/
theorem join_eq (operator : String) (parts : List Fragment) :
    Fragment.join operator parts = .separated operator (parts.map Fragment.enclosed) := by
  have texts : parts.map (fun part => "(" ++ part.text ++ ")") =
      (parts.map Fragment.enclosed).map Fragment.text := by
    rw [List.map_map]
    rfl
  have parameters : parts.flatMap Fragment.parameters =
      (parts.map Fragment.enclosed).flatMap Fragment.parameters := by
    rw [List.flatMap_map]
    refine List.flatMap_congr fun part _ => ?_
    exact (List.append_nil part.parameters).symm
  rw [Fragment.join, Fragment.separated, texts, parameters]

/-- Fragments that are joined are read as their tokens, if there are any. -/
theorem tokens_join (operator : String) {mark : Token}
    (marked : (Fragment.plain operator).tokens? = some [mark])
    (starts : operator.toList.head? = some ' ') (ends : operator.toList.getLast? = some ' ')
    (each : List.Forall₂ Fragment.IsReadAs parts clauses) (nonempty : parts ≠ []) :
    ∃ tokens, (Fragment.join operator parts).tokens? = some ([mark].intercalate tokens) ∧
      tokens ≠ [] ∧ List.Forall₂ IsOperand tokens clauses := by
  obtain ⟨tokens, founds, reads⟩ := exists_operands each
  refine ⟨tokens, ?_, ?_, reads⟩
  · rw [join_eq]
    exact Fragment.tokens_separated marked ⟨starts, rfl⟩ ⟨ends, rfl⟩ founds
  · rintro rfl
    exact nonempty (List.map_eq_nil_iff.1 (List.forall₂_nil_right_iff.1 founds))

/-- **A conjunction of fragments** is read as the conjunction of their clauses. -/
theorem Fragment.IsReadAs.all (each : List.Forall₂ Fragment.IsReadAs parts clauses) :
    (Fragment.all parts).IsReadAs (Clause.all clauses) := by
  cases each with
  | nil => exact isReadAs_constant true
  | cons head tail =>
    cases tail with
    | nil => exact head -- a single part stands without parentheses
    | cons next tail =>
      obtain ⟨tokens, found, nonempty, reads⟩ := tokens_join " AND " rfl rfl rfl
        (.cons head (.cons next tail)) (List.cons_ne_nil _ _)
      exact ⟨_, found, (isConjunction_intercalate nonempty reads).clause⟩

/-- **A disjunction of fragments** is read as the disjunction of their clauses. -/
theorem Fragment.IsReadAs.any (each : List.Forall₂ Fragment.IsReadAs parts clauses) :
    (Fragment.any parts).IsReadAs (Clause.any clauses) := by
  cases each with
  | nil => exact isReadAs_constant false
  | cons head tail =>
    cases tail with
    | nil => exact head
    | cons next tail =>
      obtain ⟨tokens, found, nonempty, reads⟩ := tokens_join " OR " rfl rfl rfl
        (.cons head (.cons next tail)) (List.cons_ne_nil _ _)
      exact ⟨_, found, isClause_intercalate nonempty reads⟩

end Chains

/-! ### Filters -/

/-- **The text of a filter is read as the clause of the filter.** -/
theorem isReadAs_fragment {filter : Filter Condition}
    (spelled : ∀ condition ∈ filter.leaves, condition.isSpelled) :
    (fragment filter).IsReadAs (.ofFilter filter) := by
  -- the fragments of the children are read as clauses, and so are both ways of joining them
  induction filter using Filter.induct with
  | all => exact isReadAs_constant true
  | leaf condition => exact isReadAs_condition (spelled condition (List.mem_singleton_self _))
  | and children ih =>
    rw [fragment_and, Clause.ofFilter, Clause.ofFilters_eq_map]
    refine Fragment.IsReadAs.all ?_
    rw [List.forall₂_map_left_iff, List.forall₂_map_right_iff]
    refine List.forall₂_same.2 fun child mem => ih child mem fun condition below => ?_
    exact spelled condition (Filter.leaves_and children ▸ List.mem_flatMap.2 ⟨child, mem, below⟩)
  | or children ih =>
    rw [fragment_or, Clause.ofFilter, Clause.ofFilters_eq_map]
    refine Fragment.IsReadAs.any ?_
    rw [List.forall₂_map_left_iff, List.forall₂_map_right_iff]
    refine List.forall₂_same.2 fun child mem => ih child mem fun condition below => ?_
    exact spelled condition (Filter.leaves_or children ▸ List.mem_flatMap.2 ⟨child, mem, below⟩)

end Database

end EntitySearch
