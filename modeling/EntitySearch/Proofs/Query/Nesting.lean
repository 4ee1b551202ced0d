import EntitySearch.Proofs.Query.Levels

/-!
# Queries inside of queries

Whatever is a query by itself can stand in parentheses in a larger query, and there it is read as
what it is by itself. Nothing has to be known about its text but that it is read: its structure has
been checked then, so the text is closed (`read_eq_ok_iff`), and no quote and no parenthesis in it
can reach beyond the parentheses around it.

* White space and pairs of parentheses around a query are taken off again (`Wrapped.unwrap`).
* A text that is put together of closed pieces is cut at the connectives between them (`cut_text`).
* When the pieces stand in parentheses, the first parenthesis is not closed by the last one, so
  nothing is taken off the whole but white space (`exists_unwrap_text`).

`read_nested` puts these together. The connectives between the pieces may differ; a lenient reading
takes the first one for all of them.
-/

namespace EntitySearch.Query

open Text (AllBlank Tight)

/-- **A query in pairs of parentheses**, with white space around it and around each pair. -/
inductive Wrapped (query : List Char) : Nat → List Char → Prop
  | bare {before behind : List Char} (blank : AllBlank before) (blank' : AllBlank behind) :
      Wrapped query 0 (before ++ (query ++ behind))
  | pair {pairs : Nat} {before inner behind : List Char} (wrapped : Wrapped query pairs inner)
      (blank : AllBlank before) (blank' : AllBlank behind) :
      Wrapped query (pairs + 1) (before ++ ('(' :: (inner ++ [')']) ++ behind))

section Wrapped

variable {strict : Bool} {query s : List Char} {pairs : Nat}

/-- A query that is wrapped is closed if the query is. -/
theorem Wrapped.closed (wrapped : Wrapped query pairs s) (closed : Closed true query) :
    Closed true s := by
  induction wrapped with
  | bare blank blank' => exact closed.padded blank blank'
  | pair _ blank blank' ih => exact ih.parentheses.padded blank blank'

/-- A query that is wrapped is a part of the text. -/
theorem Wrapped.isInfix (wrapped : Wrapped query pairs s) : query <:+: s := by
  induction wrapped with
  | @bare before behind _ _ => exact ⟨before, behind, List.append_assoc ..⟩
  | @pair _ before inner behind _ _ _ ih =>
    have inner : inner <:+: before ++ ('(' :: (inner ++ [')']) ++ behind) :=
      ⟨before ++ ['('], ')' :: behind, by simp⟩
    exact ih.trans inner

theorem Wrapped.mem (wrapped : Wrapped query pairs s) {c : Char} (mem : c ∈ query) : c ∈ s :=
  wrapped.isInfix.subset mem

/-- **Parentheses around a query** and the white space between them are taken off. -/
theorem Wrapped.unwrap (wrapped : Wrapped query pairs s) (closed : Closed true query) :
    Query.unwrap s = Query.unwrap query := by
  induction wrapped with
  | bare blank blank' => exact unwrap_congr (Text.trim_padded blank query blank')
  | @pair _ before inner behind wrapped blank blank' ih =>
    have trimmed : Text.trim (before ++ ('(' :: (inner ++ [')']) ++ behind)) =
        Text.trim ('(' :: (inner ++ [')'])) := Text.trim_padded blank _ blank'
    rw [unwrap_congr trimmed, unwrap_parentheses (wrapped.closed closed), ih]

/-- A query that is wrapped is read as the query. -/
theorem Wrapped.readLevel (wrapped : Wrapped query pairs s) (closed : Closed true query) :
    Query.readLevel strict s = Query.readLevel strict query :=
  readLevel_congr (wrapped.unwrap closed)

end Wrapped

/-! ### Closed pieces -/

section Pieces

variable {pieces : Pieces}

section Text

variable (first piece : List Char) (connective : Connective) (rest : List (Connective × List Char))

theorem text_cons :
    Pieces.text ⟨first, (connective, piece) :: rest⟩ =
      first ++ connective.symbol :: Pieces.text ⟨piece, rest⟩ := rfl

theorem text_concat :
    Pieces.text ⟨first, rest ++ [(connective, piece)]⟩ =
      Pieces.text ⟨first, rest⟩ ++ connective.symbol :: piece := by
  simp [Pieces.text]

theorem text_append (front : List Char) :
    Pieces.text ⟨front ++ first, rest⟩ = front ++ Pieces.text ⟨first, rest⟩ :=
  List.append_assoc ..

end Text

/-- **Closed pieces are what their text is cut into.** -/
theorem cut_text (closed : ∀ piece ∈ pieces.all, Closed false piece) :
    cut pieces.text = pieces := by
  obtain ⟨first, rest⟩ := pieces
  induction rest generalizing first with
  | nil =>
    have whole : Pieces.text ⟨first, []⟩ = first := List.append_nil first
    rw [whole, cut_of_closed (closed first List.mem_cons_self)]
  | cons entry rest ih =>
    obtain ⟨connective, piece⟩ := entry
    obtain ⟨here, others⟩ := List.forall_mem_cons.1 closed
    -- the first connective outside of quotes and parentheses is the one behind the first piece
    rw [text_cons, cut_append here, ih piece others]

/-- The text of closed pieces is closed. -/
theorem closed_text (closed : ∀ piece ∈ pieces.all, Closed false piece) :
    Closed true pieces.text := by
  obtain ⟨first, rest⟩ := pieces
  induction rest generalizing first with
  | nil =>
    have whole : Pieces.text ⟨first, []⟩ = first := List.append_nil first
    rw [whole]
    exact (closed first List.mem_cons_self).weaken
  | cons entry rest ih =>
    -- each piece is closed, and so is what follows its connective
    obtain ⟨connective, piece⟩ := entry
    obtain ⟨here, others⟩ := List.forall_mem_cons.1 closed
    rw [text_cons]
    exact here.weaken.append (.connective (ih piece others))

/-- Pieces are read alike when only the white space around them differs. -/
theorem mapM_readPiece_congr {strict : Bool} {list others : List (List Char)}
    (same : list.map Text.trim = others.map Text.trim) :
    list.mapM (readPiece strict) = others.mapM (readPiece strict) := by
  have trimmed (list : List (List Char)) :
      list.mapM (readPiece strict) = (list.map Text.trim).mapM (readPiece strict) := by
    rw [List.mapM_map]
    congr 1
    funext piece
    exact readPiece_congr (Text.trim_trim piece).symm
  rw [trimmed list, same, ← trimmed others]

end Pieces

/-! ### Pieces in parentheses -/

/-- **A piece in parentheses**: some closed text in at least one pair of them. -/
def IsEnclosed (piece : List Char) : Prop :=
  ∃ query pairs, Closed true query ∧ Wrapped query (pairs + 1) piece

/-- The outermost pair of a piece in parentheses. -/
theorem IsEnclosed.exists_inner {piece : List Char} (enclosed : IsEnclosed piece) :
    ∃ before inner behind, AllBlank before ∧ AllBlank behind ∧ Closed true inner ∧
      piece = before ++ ('(' :: (inner ++ [')']) ++ behind) := by
  obtain ⟨query, pairs, closed, wrapped⟩ := enclosed
  cases wrapped with
  | @pair _ before inner behind wrapped blank blank' =>
    exact ⟨before, inner, behind, blank, blank', wrapped.closed closed, rfl⟩

theorem IsEnclosed.closed {piece : List Char} (enclosed : IsEnclosed piece) :
    Closed false piece := by
  obtain ⟨before, inner, behind, blank, blank', closed, rfl⟩ := enclosed.exists_inner
  exact closed.parentheses.padded blank blank'

/-- **Parentheses that do not belong together** are not taken off: the first one is closed in front
of the last one. -/
theorem unwrap_between {inner : List Char} (closed : Closed true inner)
    (inner' between : List Char) :
    let text := '(' :: (inner ++ [')']) ++ (between ++ '(' :: (inner' ++ [')']))
    unwrap text = text := by
  have tight := (tight_parentheses inner).around (tight_parentheses inner') between
  have plain : enclosed? ('(' :: (inner ++ [')']) ++ (between ++ '(' :: (inner' ++ [')']))) =
      none := by
    rw [List.cons_append, List.append_assoc]
    exact enclosed?_more closed (by simp)
  exact unwrap_of_tight tight plain

/-- **Nothing is taken off pieces in parentheses** as a whole but the white space around them: the
first parenthesis is closed within its piece. -/
theorem exists_unwrap_text {pieces : Pieces} (enclosed : ∀ piece ∈ pieces.all, IsEnclosed piece)
    (several : pieces.rest ≠ []) :
    ∃ level : Pieces, unwrap pieces.text = level.text ∧
      level.connectives = pieces.connectives ∧
      level.all.map Text.trim = pieces.all.map Text.trim ∧
      ∀ piece ∈ level.all, Closed false piece := by
  obtain ⟨first, rest⟩ := pieces
  obtain ⟨middle, ⟨connective, last⟩, rfl⟩ := (List.eq_nil_or_concat' rest).resolve_left several
  obtain ⟨start, others⟩ := List.forall_mem_cons.1 enclosed
  rw [List.map_append, List.forall_mem_append] at others
  obtain ⟨between, stop⟩ := others
  obtain ⟨before, inner, behind, blank, blank', closed, rfl⟩ := start.exists_inner
  obtain ⟨before', inner', behind', gap, gap', closed', rfl⟩ :=
    (List.forall_mem_singleton.1 stop).exists_inner
  -- the same pieces without the white space at either end
  let level : Pieces := ⟨'(' :: (inner ++ [')']) ++ behind,
    middle ++ [(connective, before' ++ '(' :: (inner' ++ [')']))]⟩
  have whole : Pieces.text ⟨before ++ ('(' :: (inner ++ [')']) ++ behind),
      middle ++ [(connective, before' ++ ('(' :: (inner' ++ [')']) ++ behind'))]⟩ =
        before ++ (level.text ++ behind') := by
    simp [level, text_concat, text_append]
  have text : level.text = '(' :: (inner ++ [')']) ++ (Pieces.text ⟨behind, middle⟩ ++
      connective.symbol :: before' ++ '(' :: (inner' ++ [')'])) := by
    simp only [level, text_concat, text_append, List.append_assoc]
    rfl
  -- the first parenthesis is closed in front of the last one, so the two are no pair
  have kept : unwrap level.text = level.text := text ▸ unwrap_between closed inner' _
  refine ⟨level, ?_, ?_, ?_, ?_⟩
  · rw [whole, unwrap_congr (Text.trim_padded blank _ gap'), kept]
  · simp [Pieces.connectives, level]
  · have same := Text.trim_append_blank blank ('(' :: (inner ++ [')']) ++ behind)
    have same' := (Text.trim_append_blank gap ('(' :: (inner' ++ [')']))).trans
      (Text.trim_padded gap ('(' :: (inner' ++ [')'])) gap').symm
    simp only [Pieces.all, level, List.map_cons, List.map_append, List.map_nil, same, same']
  · refine List.forall_mem_cons.2 ⟨closed.parentheses.append (.of_blank blank'), ?_⟩
    rw [List.map_append, List.forall_mem_append]
    refine ⟨fun piece mem => (between piece mem).closed, List.forall_mem_singleton.2 ?_⟩
    exact (Closed.of_blank gap).append closed'.parentheses

/-! ### Reading -/

/-- **A piece that is a query of its own**: in at least one pair of parentheses stands a query that
is read as the expression. -/
def Nests (strict : Bool) (piece : List Char) (expression : Expression) : Prop :=
  ∃ query pairs, read strict query = .ok expression ∧ Wrapped query.toList (pairs + 1) piece

section Reading

variable {strict : Bool} {piece : List Char} {expression : Expression}

theorem Nests.isEnclosed (nests : Nests strict piece expression) : IsEnclosed piece := by
  obtain ⟨query, pairs, reads, wrapped⟩ := nests
  exact ⟨query.toList, pairs, (read_eq_ok_iff.1 reads).2.1, wrapped⟩

/-- There is a parenthesis in a piece in parentheses. -/
theorem IsEnclosed.mem (enclosed : IsEnclosed piece) : '(' ∈ piece := by
  obtain ⟨before, inner, behind, _, _, _, rfl⟩ := enclosed.exists_inner
  simp

/-- **A query in parentheses is read as a piece** as it is read by itself. -/
theorem Nests.readPiece (nests : Nests strict piece expression) :
    Query.readPiece strict piece = .ok expression := by
  have there : Text.trim piece ≠ [] := Text.trim_ne_nil nests.isEnclosed.mem rfl
  obtain ⟨query, pairs, reads, wrapped⟩ := nests
  obtain ⟨_, closed, level⟩ := read_eq_ok_iff.1 reads
  rw [Query.readPiece, List.isEmpty_eq_false_iff.2 there, if_neg Bool.false_ne_true,
    wrapped.readLevel closed, level]

/-- **Queries in queries.** A query in any number of parentheses is read as it is read by itself.
Queries in parentheses with connectives between them are read as the group of what they are read as
by themselves, under the first of the connectives. A strict reading takes only one connective. -/
theorem read_nested (strict : Bool) :
    (∀ query expression pairs text, read strict query = .ok expression →
      Wrapped query.toList pairs text → read strict (String.ofList text) = .ok expression) ∧
    (∀ (pieces : Pieces) connective expressions, pieces.connectives.head? = some connective →
      (strict = true → ∀ other ∈ pieces.connectives, other = connective) →
      List.Forall₂ (Nests strict) pieces.all expressions →
      read strict (String.ofList pieces.text) = .ok (.group connective expressions)) := by
  constructor
  · intro query expression pairs text reads wrapped
    obtain ⟨there, closed, level⟩ := read_eq_ok_iff.1 reads
    -- the text is as little blank as the query, and as well closed
    obtain ⟨c, mem, plain⟩ := List.all_eq_false.1 there
    refine read_eq_ok_iff.2 ?_
    rw [String.toList_ofList, Text.isBlankText, String.toList_ofList]
    exact ⟨List.all_eq_false.2 ⟨c, wrapped.mem mem, plain⟩, wrapped.closed closed,
      (wrapped.readLevel closed).trans level⟩
  · intro pieces connective expressions first pure nest
    obtain ⟨enclosed, each⟩ := (List.forall₂_and_left _ _).1
      (nest.imp fun _ _ nests => ⟨nests.isEnclosed, nests.readPiece⟩)
    -- a connective joins two pieces
    have several : pieces.rest ≠ [] := by
      intro whole
      rw [Pieces.connectives, whole] at first
      cases first
    obtain ⟨level, text, connectives, trims, closed⟩ := exists_unwrap_text enclosed several
    -- the level is cut into the same pieces but for white space, which makes no difference to them
    have cuts : cut (unwrap pieces.text) = level := by rw [text, cut_text closed]
    have reads : readLevel strict pieces.text = .ok (.group connective expressions) := by
      refine readLevel_eq_ok_iff.2 (Or.inr ⟨connective, expressions, ?_⟩)
      rw [cuts, connectives, mapM_readPiece_congr trims]
      exact ⟨first, pure, Outcome.mapM_eq_ok_iff.2 each, rfl⟩
    have parenthesis : '(' ∈ pieces.text :=
      List.mem_append_left _ (enclosed pieces.first List.mem_cons_self).mem
    refine read_eq_ok_iff.2 ?_
    rw [String.toList_ofList, Text.isBlankText, String.toList_ofList]
    exact ⟨List.all_eq_false.2 ⟨'(', parenthesis, by decide⟩,
      closed_text fun piece mem => (enclosed piece mem).closed, reads⟩

end Reading

/-- A query with both connectives between queries in parentheses, of which the first one quotes a
parenthesis of either kind and the second one has parentheses of its own. -/
def bracketedQuery : String :=
  " ((a = ')&(') ) |((b IS NULL) & (c IS NULL))& (d IS NULL)"

/-- The tree of `bracketedQuery`. -/
def bracketedExpression : Expression :=
  .group .or [.condition ⟨"a", .equals, .text ")&("⟩,
    .group .and [.condition ⟨"b", .isNull, .null⟩, .condition ⟨"c", .isNull, .null⟩],
    .condition ⟨"d", .isNull, .null⟩]

theorem read_nested_bracketedQuery :
    (∀ strict, read strict "a = ')&('" = .ok (.condition ⟨"a", .equals, .text ")&("⟩) ∧
      read strict " ((a = ')&(') ) " = .ok (.condition ⟨"a", .equals, .text ")&("⟩)) ∧
    read true "(b IS NULL) & (c IS NULL)" =
      .ok (.group .and [.condition ⟨"b", .isNull, .null⟩, .condition ⟨"c", .isNull, .null⟩]) ∧
    read false bracketedQuery = .ok bracketedExpression := by
  have one : AllBlank [' '] := List.forall_mem_singleton.2 rfl
  have none := Text.allBlank_nil
  have a (strict : Bool) : read strict "a = ')&('" = .ok (.condition ⟨"a", .equals, .text ")&("⟩) :=
    read_of_whole (by rfl) (by rfl) (by cbv) (by rfl) (by rfl)
  have b (strict : Bool) : read strict "b IS NULL" = .ok (.condition ⟨"b", .isNull, .null⟩) :=
    read_of_whole (by rfl) (by rfl) (by cbv) (by rfl) (by rfl)
  have c (strict : Bool) : read strict "c IS NULL" = .ok (.condition ⟨"c", .isNull, .null⟩) :=
    read_of_whole (by rfl) (by rfl) (by cbv) (by rfl) (by rfl)
  have d (strict : Bool) : read strict "d IS NULL" = .ok (.condition ⟨"d", .isNull, .null⟩) :=
    read_of_whole (by rfl) (by rfl) (by cbv) (by rfl) (by rfl)
  have twice : Wrapped "a = ')&('".toList 2 " ((a = ')&(') ) ".toList :=
    .pair (.pair (.bare none none) none one) one one
  have inner (strict : Bool) : read strict "(b IS NULL) & (c IS NULL)" =
      .ok (.group .and [.condition ⟨"b", .isNull, .null⟩, .condition ⟨"c", .isNull, .null⟩]) :=
    (read_nested strict).2 ⟨"(b IS NULL) ".toList, [(.and, " (c IS NULL)".toList)]⟩ .and _ rfl
      (fun _ => List.forall_mem_singleton.2 rfl)
      (.cons ⟨"b IS NULL", 0, b strict, .pair (.bare none none) none one⟩
        (.cons ⟨"c IS NULL", 0, c strict, .pair (.bare none none) one none⟩ .nil))
  refine ⟨fun strict => ⟨a strict, (read_nested strict).1 _ _ _ _ (a strict) twice⟩, inner true, ?_⟩
  exact (read_nested false).2 ⟨" ((a = ')&(') ) ".toList,
      [(.or, "((b IS NULL) & (c IS NULL))".toList), (.and, " (d IS NULL)".toList)]⟩ .or _ rfl
    (absurd · Bool.false_ne_true)
    (.cons ⟨"a = ')&('", 1, a false, twice⟩
      (.cons ⟨"(b IS NULL) & (c IS NULL)", 0, inner false, .pair (.bare none none) none none⟩
        (.cons ⟨"d IS NULL", 0, d false, .pair (.bare none none) one none⟩ .nil)))

end EntitySearch.Query
