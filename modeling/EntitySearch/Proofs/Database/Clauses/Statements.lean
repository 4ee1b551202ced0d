import EntitySearch.Database.Statement
import EntitySearch.Database.Table
import EntitySearch.Proofs.Database.Clauses.Conditions

/-!
# The text of statements

The statement that fetches a page has places in its columns, in its condition, in its order and in
its limits, and the one that counts matches has places in its condition. Both are read here from
their text (`readPage`, `readCount`), so what stands in a place shows where a parameter has gone.

`statements_mean` puts everything together: the text of a filter is read as a clause that is true
where the filter holds of the comparisons whose own texts are true, both statements test the entity
type and this clause, and every projected path, the path of the sort, the limit and the offset are
bound in their own places.
-/

namespace EntitySearch.Database

/-! ### Statements -/

/-- **A column of a page**: the id of the record, its document, or the `id` or another member of its
document. -/
inductive Column where
  | id
  | document
  | documentId
  | member (path : Parameter)
  deriving DecidableEq, Repr

/-- **A statement that fetches a page.** Rows that are equal in the order are ordered by number. -/
structure PageStatement where
  columns : List Column
  condition : Clause
  sort : Term
  direction : Direction
  limit : Parameter
  offset : Parameter
  deriving DecidableEq, Repr

/-- Reads a column. -/
def readColumn (tokens : List Token) : Option (Column × List Token) :=
  match after? "e.id" tokens with
  | some tokens => some (.id, tokens)
  | none => do
    let tokens ← after? "e.data" tokens
    match after? "->" tokens with
    | none => some (.document, tokens)
    | some tokens =>
      match after? "'$.id'" tokens with
      | some tokens => some (.documentId, tokens)
      | none => do
        let (path, tokens) ← readPlace tokens
        some (.member path, tokens)

/-- Reads a direction. -/
def readDirection (tokens : List Token) : Option (Direction × List Token) :=
  match after? "ASC" tokens with
  | some tokens => some (.ascending, tokens)
  | none => (after? "DESC" tokens).map (.descending, ·)

/-- Reads the order of a page and its limits. -/
def readEnding (columns : List Column) (condition : Clause) (tokens : List Token) :
    Option PageStatement := do
  let tokens ← afterAll? ["ORDER", "BY"] tokens
  let (sort, tokens) ← readTerm tokens
  let (direction, tokens) ← readDirection tokens
  let tokens ← afterAll? [",", "e.rowid", "ASC", "LIMIT"] tokens
  let (limit, tokens) ← readPlace tokens
  let tokens ← after? "OFFSET" tokens
  let (offset, tokens) ← readPlace tokens
  if tokens.isEmpty then some { columns, condition, sort, direction, limit, offset } else none

/-- **Reading a statement that fetches a page.** -/
def readPage (tokens : List Token) : Option PageStatement := do
  let tokens ← after? "SELECT" tokens
  let (columns, tokens) ← readList readColumn tokens.length tokens
  let tokens ← afterAll? ["FROM", "entities", "e", "WHERE"] tokens
  let (condition, tokens) ← readClause (3 * tokens.length + 3) tokens
  readEnding columns condition tokens

/-- **Reading a statement that counts matches**, down to its condition. -/
def readCount (tokens : List Token) : Option Clause :=
  (afterAll? ["SELECT", "COUNT", "(", "*", ")", "FROM", "entities", "e", "WHERE"] tokens).bind
    Clause.ofTokens?

/-- The statement that a fragment is read as, if it fetches a page. -/
def Fragment.page? (statement : Fragment) : Option PageStatement :=
  statement.tokens?.bind readPage

/-- The condition of the statement that a fragment is read as, if it counts matches. -/
def Fragment.counted? (statement : Fragment) : Option Clause := statement.tokens?.bind readCount

/-! ### Columns -/

/-- The columns behind the id: the document, or its `id` and all projected attributes. -/
def shownColumns : Option (List Attribute) → List Column
  | none => [.document]
  | some shown => .documentId :: shown.map fun a => .member (.text (pathText a.documentPath))

namespace Column

/-- The fragment of a column. -/
def fragment : Column → Fragment
  | id => .plain "e.id"
  | document => .plain "e.data"
  | documentId => .plain "e.data -> '$.id'"
  | member path => ⟨"e.data -> ?", [path]⟩

/-- The tokens of a column. -/
def tokens : Column → List Token
  | id => [.word "e.id"]
  | document => [.word "e.data"]
  | documentId => [.word "e.data", .word "->", .word "'$.id'"]
  | member path => [.word "e.data", .word "->", .place path]

theorem tokens_fragment (column : Column) : column.fragment.tokens? = some column.tokens := by
  cases column <;> cbv

/-- A column is read from its tokens, if nothing is taken out of it behind them. -/
theorem readColumn_tokens (column : Column) (rest : List Token) (stops : after? "->" rest = none) :
    readColumn (column.tokens ++ rest) = some (column, rest) := by
  cases column with
  | id | documentId | member path => rfl
  | document =>
    change (match after? "->" rest with
      | none => some (Column.document, rest)
      | some _ => _) = _
    rw [stops]

end Column

/-- The tokens of columns with commas between them. -/
def columnTokens (columns : List Column) : List Token :=
  [.word ","].intercalate (columns.map Column.tokens)

/-- The columns behind the id are written with commas between them. -/
theorem columns_eq (projection : Option (List Attribute)) :
    columns projection = .separated ", " ((shownColumns projection).map Column.fragment) := by
  cases projection with
  | none => rfl
  | some shown =>
    have texts : (shownColumns (some shown)).map (Fragment.text ∘ Column.fragment) =
        "e.data -> '$.id'" :: shown.map fun _ => "e.data -> ?" := by
      rw [shownColumns, List.map_cons, List.map_map]
      rfl
    have parameters : (shownColumns (some shown)).flatMap (fun c => c.fragment.parameters) =
        shown.map fun a => .text (pathText a.documentPath) := by
      rw [shownColumns, List.flatMap_cons, List.flatMap_map]
      exact List.map_eq_flatMap.symm
    rw [columns, Fragment.separated, List.map_map, texts, List.flatMap_map, parameters]

/-- The tokens of the columns behind the id. -/
theorem tokens_columns (projection : Option (List Attribute)) :
    (columns projection).tokens? = some (columnTokens (shownColumns projection)) := by
  rw [columns_eq]
  refine Fragment.tokens_separated (c := ',') (d := ' ') rfl ⟨rfl, rfl⟩ ⟨rfl, rfl⟩ ?_
  rw [List.forall₂_map_left_iff, List.forall₂_map_right_iff]
  exact List.forall₂_same.2 fun column _ => column.tokens_fragment

/-- Columns are read from their tokens, up to something that goes on with neither. -/
theorem readList_columns {columns : List Column} {rest : List Token} {fuel : Nat}
    (nonempty : columns ≠ []) (enough : columns.length ≤ fuel) (stops : after? "->" rest = none)
    (last : after? "," rest = none) :
    readList readColumn fuel (columnTokens columns ++ rest) = some (columns, rest) := by
  refine readList_intercalate (fun rest => after? "->" rest = none) ?_ ?_ last
    (fun _ => rfl) stops ?_
  · exact fun none => nonempty (List.map_eq_nil_iff.1 none)
  · rwa [List.length_map]
  · rw [List.forall₂_map_left_iff]
    exact List.forall₂_same.2 fun column _ rest stops => column.readColumn_tokens rest stops

theorem length_le_columnTokens (columns : List Column) :
    columns.length ≤ (columnTokens columns).length := by
  induction columns with
  | nil => exact Nat.le_refl 0
  | cons column rest ih =>
    have one : 1 ≤ column.tokens.length := by
      cases column <;> exact Nat.succ_le_succ (Nat.zero_le _)
    cases rest with
    | nil =>
      rw [columnTokens, List.map_cons, List.map_nil, List.intercalate_singleton]
      exact one
    | cons next rest =>
      have split : columnTokens (column :: next :: rest) =
          column.tokens ++ [.word ","] ++ columnTokens (next :: rest) := List.intercalate_cons_cons
      rw [split, List.length_append, List.length_append, List.length_cons]
      omega

/-! ### Conditions of statements -/

/-- The clause of the condition of a statement: the test of the entity type and another clause. -/
def Clause.within (entity : String) (clause : Clause) : Clause :=
  .and (.compare .equals .entity (.text entity)) clause

/-- The tokens of the condition of a statement in front of the clause of the filter. -/
def typeTokens (entity : String) : List Token :=
  [.word "e.entity_type", .word "=", .place (.text entity), .word "AND", .word "("]

/-- **The condition of a statement** tests the entity type and the clause of the filter. -/
theorem IsClause.within {tokens : List Token} {clause : Clause} (read : IsClause tokens clause)
    (entity : String) :
    IsClause (typeTokens entity ++ (tokens ++ [.word ")"])) (clause.within entity) := by
  -- the parentheses keep a disjunction of the filter behind the `AND`
  have typed : IsOperand [.word "e.entity_type", .word "=", .place (.text entity)]
      (.compare .equals .entity (.text entity)) :=
    IsOperand.of_atom (fun _ => rfl) (fun _ => rfl) fun _ => rfl
  exact (typed.and read.enclosed.conjunction).clause

/-- Two texts are equal as values exactly when they are the same. -/
theorem order?_ofString_eq (a b : String) :
    ((Value.ofString a).order? (Value.ofString b)).map Operation.equals.holdsOf =
      some (decide (a = b)) := by
  change some (compare _ _ == .eq) = _
  congr 1
  rw [Bool.eq_iff_iff, beq_iff_eq, Std.compare_eq_iff_eq, decide_eq_true_iff]
  -- a value is compared by its code points, and no two characters share one
  have injective : Function.Injective Char.toNat := fun _ _ => Char.toNat_inj.1
  rw [(List.map_injective_iff.2 injective).eq_iff, String.toList_inj]

/-- The condition of a statement is true of the rows of its entity type of which the clause is. -/
theorem Clause.isTrue_within (view : View) (entity : String) (clause : Clause) :
    (clause.within entity).isTrue view = (view.entity = entity && clause.isTrue view) := by
  rw [within, isTrue_and]
  congr 1
  change (((Value.ofString view.entity).order? (Value.ofString entity)).map _ == _) = _
  rw [order?_ofString_eq, Option.some_beq_some, beq_true]

/-! ### Whole statements -/

section Statements

variable {filter : Filter Condition} {clause : Clause}

/-- The parameter for a number is the number itself, or the greatest one there is. -/
theorem natParameter_eq (n : Nat) : natParameter n = .integer (min n (2 ^ 63 - 1)) := rfl

/-- Different numbers below `2 ^ 63` have different parameters. -/
theorem natParameter_injOn {m n : Nat} (small : m < 2 ^ 63) (small' : n < 2 ^ 63)
    (same : natParameter m = natParameter n) : m = n := by
  rw [natParameter_eq, natParameter_eq, Parameter.integer.injEq] at same
  omega

/-- **Pages with different limits or offsets** below `2 ^ 63` have different parameters. -/
theorem parameters_fetchStatement_injective (fetch : Fetch) (filter : Filter Condition) :
    Function.Injective fun page : Fin (2 ^ 63) × Fin (2 ^ 63) =>
      (fetchStatement { fetch with limit := page.1, offset := page.2 } filter).parameters := by
  rintro ⟨limit, offset⟩ ⟨limit', offset'⟩ same
  -- only the two parameters at the end depend on the page
  have ends : [natParameter limit, natParameter offset] =
      [natParameter limit', natParameter offset'] :=
    (List.cons.inj (List.append_cancel_left same)).2
  obtain ⟨limits, offsets⟩ := List.cons.inj ends
  have first := natParameter_injOn limit.isLt limit'.isLt limits
  have second := natParameter_injOn offset.isLt offset'.isLt (List.cons.inj offsets).1
  rw [Fin.ext first, Fin.ext second]

/-- The order and the limits of a page behind its condition. -/
def endingOf (fetch : Fetch) : Fragment :=
  ⟨") ORDER BY json_extract(e.data, ?) " ++ directionText fetch.direction ++
      ", e.rowid ASC LIMIT ? OFFSET ?",
    [.text (pathText fetch.sort.documentPath), natParameter fetch.limit, natParameter fetch.offset]⟩

/-- The tokens of the order and the limits of a page. -/
def endingTokens (fetch : Fetch) : List Token :=
  .word "ORDER" :: .word "BY" ::
    (extractTokens .document (.text (pathText fetch.sort.documentPath)) ++
      [.word (directionText fetch.direction), .word ",", .word "e.rowid", .word "ASC",
        .word "LIMIT", .place (natParameter fetch.limit), .word "OFFSET",
        .place (natParameter fetch.offset)])

theorem tokens_endingOf (fetch : Fetch) :
    (endingOf fetch).tokens? = some (.word ")" :: endingTokens fetch) := by
  have general (direction : Direction) (path limit offset : Parameter) :
      (⟨") ORDER BY json_extract(e.data, ?) " ++ directionText direction ++
          ", e.rowid ASC LIMIT ? OFFSET ?", [path, limit, offset]⟩ : Fragment).tokens? =
        some (.word ")" :: .word "ORDER" :: .word "BY" :: (extractTokens .document path ++
          [.word (directionText direction), .word ",", .word "e.rowid", .word "ASC",
            .word "LIMIT", .place limit, .word "OFFSET", .place offset])) := by
    cases direction <;> cbv
  -- the parameters are variables above, so that only the text is computed with
  exact general _ _ _ _

/-- The order and the limits are read from their tokens. -/
theorem readEnding_tokens (columns : List Column) (condition : Clause) (fetch : Fetch) :
    readEnding columns condition (endingTokens fetch) = some
      { columns
        condition
        sort := .extract .document (.text (pathText fetch.sort.documentPath))
        direction := fetch.direction
        limit := natParameter fetch.limit
        offset := natParameter fetch.offset } := by
  rw [endingTokens]
  cases fetch.direction <;> rfl

/-- The tokens in front of the clause of the filter, from the table on. -/
def whereTokens (entity : String) : List Token :=
  [.word "FROM", .word "entities", .word "e", .word "WHERE"] ++ typeTokens entity

/-- The text from the table on, up to the clause of the filter. -/
def tableFragment (entity : String) : Fragment :=
  ⟨" FROM entities e WHERE e.entity_type = ? AND (", [.text entity]⟩

theorem tokens_tableFragment (entity : String) :
    (tableFragment entity).tokens? = some (whereTokens entity) := by cbv

/-- The statement that fetches a page is put together from its parts. -/
theorem fetchStatement_eq (fetch : Fetch) (filter : Filter Condition) :
    fetchStatement fetch filter =
      .plain "SELECT e.id, " ++ (columns fetch.projection ++
        (tableFragment fetch.entity ++ (fragment filter ++ endingOf fetch))) := by
  have texts (a b c d e f g : String) :
      a ++ b ++ c ++ d ++ e ++ f ++ g = a ++ (b ++ (c ++ (d ++ (e ++ f ++ g)))) := by
    simp only [String.append_assoc]
  have parameters (entity : Parameter) (p q r : List Parameter) :
      p ++ entity :: q ++ r = [] ++ (p ++ ([entity] ++ (q ++ r))) := by
    simp only [List.append_assoc, List.nil_append, List.cons_append]
  exact congrArg₂ Fragment.mk (texts _ _ _ _ _ _ _) (parameters _ _ _ _)

/-- The tokens of the statement that fetches a page. -/
theorem tokens_fetchStatement (fetch : Fetch) {tokens : List Token}
    (found : (fragment filter).tokens? = some tokens) :
    (fetchStatement fetch filter).tokens? = some
      (.word "SELECT" :: (columnTokens (.id :: shownColumns fetch.projection) ++
        (whereTokens fetch.entity ++ (tokens ++ .word ")" :: endingTokens fetch)))) := by
  rw [fetchStatement_eq]
  -- the parts from the last one on, each apart from what stands behind it
  have bracket : (endingOf fetch).text.toList.head? = some ')' :=
    head?_toList_append (head?_toList_append rfl _) _
  have ending := Fragment.tokens_append found (tokens_endingOf fetch)
    (apart_of_head? bracket rfl _)
  have opening : (tableFragment fetch.entity).text.toList.getLast? = some '(' := by cbv
  have blank : (tableFragment fetch.entity).text.toList.head? = some ' ' := by cbv
  have condition := Fragment.tokens_append (tokens_tableFragment fetch.entity) ending
    (apart_of_getLast? opening rfl _)
  have shown := Fragment.tokens_append (tokens_columns fetch.projection) condition
    (apart_of_head? (Fragment.head?_append blank _) rfl _)
  have start : (Fragment.plain "SELECT e.id, ").tokens? =
      some [.word "SELECT", .word "e.id", .word ","] := by cbv
  have whole := Fragment.tokens_append start shown
    (apart_of_getLast? (c := ' ') (by decide) rfl _)
  -- the id is written with the keyword, and the other columns follow its comma
  have columns : columnTokens (.id :: shownColumns fetch.projection) =
      .word "e.id" :: .word "," :: columnTokens (shownColumns fetch.projection) := by
    cases fetch.projection <;> exact List.intercalate_cons_cons
  rw [whole, columns]
  simp only [List.cons_append, List.nil_append]

/-- **The statement that fetches a page is read** with everything in its place. -/
theorem page?_fetchStatement (fetch : Fetch) (read : (fragment filter).IsReadAs clause) :
    (fetchStatement fetch filter).places = (fetchStatement fetch filter).parameters.length ∧
      (fetchStatement fetch filter).page? = some
        { columns := .id :: shownColumns fetch.projection
          condition := clause.within fetch.entity
          sort := .extract .document (.text (pathText fetch.sort.documentPath))
          direction := fetch.direction
          limit := natParameter fetch.limit
          offset := natParameter fetch.offset } := by
  obtain ⟨tokens, found, isClause⟩ := read
  have all := tokens_fetchStatement fetch found
  refine ⟨Fragment.places_eq all, ?_⟩
  rw [Fragment.page?, all, Option.bind_some]
  -- first the columns, then the condition, and at last the order and the limits
  let behind := typeTokens fetch.entity ++ (tokens ++ [.word ")"]) ++ endingTokens fetch
  let rest := [.word "FROM", .word "entities", .word "e", .word "WHERE"] ++ behind
  have grouped :
      whereTokens fetch.entity ++ (tokens ++ .word ")" :: endingTokens fetch) = rest := by
    simp only [whereTokens, rest, behind, List.append_assoc, List.cons_append, List.nil_append]
  let shown := columnTokens (.id :: shownColumns fetch.projection)
  -- there are as many steps as tokens, and every column takes one at least
  have enough : (Column.id :: shownColumns fetch.projection).length ≤ (shown ++ rest).length := by
    rw [List.length_append]
    exact Nat.le_add_right_of_le (length_le_columnTokens _)
  have columns : readList readColumn (shown ++ rest).length (shown ++ rest) =
      some (.id :: shownColumns fetch.projection, rest) :=
    readList_columns (List.cons_ne_nil _ _) enough rfl rfl
  have condition : readClause (3 * behind.length + 3) behind =
      some (clause.within fetch.entity, endingTokens fetch) :=
    (isClause.within fetch.entity) _ _ (Nat.lt_succ_self _) rfl rfl
  -- each reader hands over what stands behind its own part
  rw [grouped]
  change (readList readColumn (shown ++ rest).length (shown ++ rest) >>= _) = _
  rw [columns]
  change (readClause (3 * behind.length + 3) behind >>= _) = _
  rw [condition]
  exact readEnding_tokens _ _ fetch

/-- The text that counts, up to the clause of the filter. -/
def countFragment (entity : String) : Fragment :=
  ⟨"SELECT COUNT(*) FROM entities e WHERE e.entity_type = ? AND (", [.text entity]⟩

theorem tokens_countFragment (entity : String) :
    (countFragment entity).tokens? = some ([.word "SELECT", .word "COUNT", .word "(", .word "*",
      .word ")"] ++ whereTokens entity) := by cbv

/-- The statement that counts matches is put together from its parts. -/
theorem countStatement_eq (entity : String) (filter : Filter Condition) :
    countStatement entity filter = countFragment entity ++ (fragment filter ++ .plain ")") := by
  have parameters (entity : Parameter) (p : List Parameter) :
      entity :: p = [entity] ++ (p ++ []) := by rw [List.append_nil, List.singleton_append]
  exact congrArg₂ Fragment.mk (String.append_assoc ..) (parameters _ _)

/-- **The statement that counts matches is read** with everything in its place. -/
theorem counted?_countStatement (entity : String) (read : (fragment filter).IsReadAs clause) :
    (countStatement entity filter).places = (countStatement entity filter).parameters.length ∧
      (countStatement entity filter).counted? = some (clause.within entity) := by
  obtain ⟨tokens, found, isClause⟩ := read
  have closed : (fragment filter ++ .plain ")").tokens? = some (tokens ++ [.word ")"]) :=
    Fragment.tokens_append found rfl (apart_of_head? (c := ')') rfl rfl _)
  have opening : (countFragment entity).text.toList.getLast? = some '(' := by cbv
  have all := Fragment.tokens_append (tokens_countFragment entity) closed
    (apart_of_getLast? opening rfl _)
  rw [← countStatement_eq] at all
  -- nothing stands behind the condition here, so the clause is read to the end
  refine ⟨Fragment.places_eq all, ?_⟩
  rw [Fragment.counted?, all, Option.bind_some]
  exact (isClause.within entity).ofTokens

end Statements

/-! ### The filter in its statements -/

/-- **Texts and statements mean the filter.** The text of a filter over comparisons is read as a
clause that is true of a row exactly when the filter holds of the comparisons whose own texts are
true of it, with an unknown comparison taken as false. The statement that fetches a page tests the
entity type and this clause, and has the projected paths, the path of the sort, the limit and the
offset in their places; the statement that counts matches tests the same. All three have as many
places as parameters. A limit or an offset is bound as it is, and the greatest parameter in the
place of one that is greater, so different ones below `2 ^ 63` are told apart. -/
theorem statements_mean (fetch : Fetch) (filter : Filter Comparison) :
    ∃ clause, (fragment (conditions filter)).clause? = some clause ∧
      (∀ view, clause.isTrue view = filter.holds fun comparison =>
        (Condition.ofComparison comparison).fragment.isTrue view) ∧
      (fragment (conditions filter)).places = (fragment (conditions filter)).parameters.length ∧
      (fetchStatement fetch (conditions filter)).page? = some
        { columns := .id :: shownColumns fetch.projection
          condition := clause.within fetch.entity
          sort := .extract .document (.text (pathText fetch.sort.documentPath))
          direction := fetch.direction
          limit := .integer (min fetch.limit (2 ^ 63 - 1))
          offset := .integer (min fetch.offset (2 ^ 63 - 1)) } ∧
      (Function.Injective fun page : Fin (2 ^ 63) × Fin (2 ^ 63) =>
        (fetchStatement { fetch with limit := page.1, offset := page.2 }
          (conditions filter)).parameters) ∧
      (fetchStatement fetch (conditions filter)).places =
        (fetchStatement fetch (conditions filter)).parameters.length ∧
      (countStatement fetch.entity (conditions filter)).counted? =
        some (clause.within fetch.entity) ∧
      (countStatement fetch.entity (conditions filter)).places =
        (countStatement fetch.entity (conditions filter)).parameters.length ∧
      (∀ view, (clause.within fetch.entity).isTrue view =
        (view.entity = fetch.entity && clause.isTrue view)) ∧
      ∀ comparison, ∃ atom,
        (Condition.ofComparison comparison).fragment.clause? = some atom ∧
          ∀ view, atom.isTrue view = (Condition.ofComparison comparison).isTrueIn view := by
  -- a filter over comparisons has no condition that is not spelled out
  have read : (fragment (conditions filter)).IsReadAs (.ofFilter (conditions filter)) := by
    refine isReadAs_fragment fun condition mem => ?_
    rw [conditions, Filter.leaves_map] at mem
    obtain ⟨comparison, _, rfl⟩ := List.mem_map.1 mem
    exact isSpelled_ofComparison comparison
  -- so each comparison has a clause of its own
  have atoms (comparison : Comparison) :
      (Condition.ofComparison comparison).fragment.clause? =
        some (Condition.ofComparison comparison).clause :=
    (isReadAs_condition (isSpelled_ofComparison comparison)).clause_eq
  have truth (view : View) :
      (Clause.ofFilter (conditions filter)).isTrue view = filter.holds fun comparison =>
        (Condition.ofComparison comparison).fragment.isTrue view := by
    rw [Clause.isTrue_ofFilter, conditions, Filter.map, Filter.holds_substitute]
    -- both go through the same tree, so it is enough that they agree on every comparison
    congr 1
    funext comparison
    rw [Fragment.isTrue, atoms comparison, Option.any_some, Condition.isTrue_clause]
    rfl
  obtain ⟨pagePlaces, page⟩ := page?_fetchStatement fetch read
  obtain ⟨countPlaces, count⟩ := counted?_countStatement fetch.entity read
  have places := Fragment.places_eq read.choose_spec.1
  rw [natParameter_eq, natParameter_eq] at page
  exact ⟨_, read.clause_eq, truth, places, page, parameters_fetchStatement_injective fetch _,
    pagePlaces, count, countPlaces, fun view => Clause.isTrue_within view _ _,
    fun comparison => ⟨_, atoms comparison, fun view => Condition.isTrue_clause view _⟩⟩

end EntitySearch.Database
