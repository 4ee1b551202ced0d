import EntitySearch.Proofs.Query.Levels

/-!
# Strict and lenient reading

A level is mixed when both connectives stand in it outside quotes and parentheses (`IsMixed`). A
lenient reading takes the first connective of a mixed level for all of them, a strict one refuses
the level, and it does so before it reads the pieces of the level. So a strict reading of a query
that is faulty in several ways may report another fault than a lenient one.

What can happen is listed by `Compared`: both readings give the same expression and no level is
mixed, or both give the same fault, or the strict one refuses a mixed level. The induction is on the
levels (`compared`): the pieces of a level are read from left to right, and as long as they are read
without a fault both readings agree on them.
-/

namespace EntitySearch.Query

/-! ### Where connectives stand -/

/-- The state of quoting and the depth of parentheses behind a character. -/
def Quoting.step (position : Quoting × Int) (c : Char) : Quoting × Int :=
  (position.1.next c, if position.1.isPlain c then depthAfter position.2 c else position.2)

/-- The state of quoting and the depth of parentheses behind a text. -/
def Quoting.position (s : List Char) : Quoting × Int := s.foldl step (outside, 0)

/-- **A connective that joins parts of a level**: it stands in the level outside quotes and outside
parentheses. -/
def Joins (connective : Connective) (level : List Char) : Prop :=
  ∃ front rest, level = front ++ connective.symbol :: rest ∧ Quoting.position front = (.outside, 0)

/-- **A level with both connectives.** -/
def IsMixed (level : List Char) : Prop := Joins .and level ∧ Joins .or level

section Connectives

variable {connective : Connective}

theorem symbol_injective {other : Connective} (same : connective.symbol = other.symbol) :
    connective = other := by
  cases connective <;> cases other
  · rfl
  · cases same
  · cases same
  · rfl

theorem connectiveAt?_eq_some_iff {state : Quoting} {depth : Int} {c : Char} :
    connectiveAt? state depth c = some connective ↔
      (state, depth) = (.outside, 0) ∧ c = connective.symbol := by
  rw [connectiveAt?]
  constructor
  · intro found
    split at found
    · next plain =>
      -- plain characters on level zero are outside of quotes and parentheses
      obtain ⟨plain, level⟩ := Bool.and_eq_true_iff.1 plain
      obtain rfl := of_decide_eq_true level
      refine ⟨?_, Connective.ofSymbol?_eq_some_iff.1 found⟩
      cases state with
      | outside => rfl
      | inside | escaped => cases plain
    · cases found
  · rintro ⟨here, rfl⟩
    cases here
    cases connective <;> rfl

/-- **A place where a text is cut**: in front of the connective stand the pieces before it, and
behind it the others. -/
def Pieces.CutsAt (pieces : Pieces) (front : List Char) (connective : Connective)
    (rest : List Char) : Prop :=
  ∃ before piece behind, pieces.rest = before ++ (connective, piece) :: behind ∧
    front = Pieces.text ⟨pieces.first, before⟩ ∧ rest = Pieces.text ⟨piece, behind⟩

section Places

variable {pieces : Pieces} {front rest : List Char}

/-- A character in front moves every cut. -/
theorem cutsAt_grow {c : Char} :
    (pieces.grow c).CutsAt front connective rest ↔
      ∃ more, front = c :: more ∧ pieces.CutsAt more connective rest := by
  constructor
  · rintro ⟨before, piece, behind, split, rfl, rfl⟩
    exact ⟨_, rfl, before, piece, behind, split, rfl, rfl⟩
  · rintro ⟨_, rfl, before, piece, behind, split, rfl, rfl⟩
    exact ⟨before, piece, behind, split, rfl, rfl⟩

/-- A connective in front moves every cut and makes a new one. -/
theorem cutsAt_divide {first : Connective} :
    (pieces.divide first).CutsAt front connective rest ↔
      (front = [] ∧ connective = first ∧ rest = pieces.text) ∨
      ∃ more, front = first.symbol :: more ∧ pieces.CutsAt more connective rest := by
  constructor
  · rintro ⟨before, piece, behind, split, rfl, rfl⟩
    cases before with
    | nil =>
      -- the first cut is at the connective itself
      obtain ⟨entry, rfl⟩ := List.cons.inj split
      obtain ⟨rfl, rfl⟩ := Prod.mk.inj entry
      exact Or.inl ⟨rfl, rfl, rfl⟩
    | cons entry before =>
      obtain ⟨rfl, others⟩ := List.cons.inj split
      exact Or.inr ⟨_, rfl, before, piece, behind, others, rfl, rfl⟩
  · rintro (⟨rfl, rfl, rfl⟩ | ⟨_, rfl, before, piece, behind, split, rfl, rfl⟩)
    · exact ⟨[], pieces.first, pieces.rest, rfl, rfl, rfl⟩
    · exact ⟨(first, pieces.first) :: before, piece, behind, congrArg (List.cons _) split, rfl, rfl⟩

theorem mem_connectives_iff :
    connective ∈ pieces.connectives ↔ ∃ front rest, pieces.CutsAt front connective rest := by
  constructor
  · intro mem
    obtain ⟨⟨_, piece⟩, listed, rfl⟩ := List.mem_map.1 mem
    obtain ⟨before, behind, split⟩ := List.append_of_mem listed
    exact ⟨_, _, before, piece, behind, split, rfl, rfl⟩
  · rintro ⟨_, _, before, piece, behind, split, _, _⟩
    rw [Pieces.connectives, split]
    simp

end Places

/-- **A text is cut at its connectives outside of quotes and parentheses**, and nowhere else. -/
theorem cutsAt_cutFrom {state : Quoting} {depth : Int} {s front rest : List Char} :
    (cutFrom state depth s).CutsAt front connective rest ↔
      s = front ++ connective.symbol :: rest ∧
        front.foldl Quoting.step (state, depth) = (.outside, 0) := by
  fun_induction cutFrom state depth s generalizing front with
  | case1 => simp [Pieces.CutsAt]
  | case2 state depth c behind found here ih =>
    obtain ⟨start, symbol⟩ := connectiveAt?_eq_some_iff.1 here
    -- a connective changes neither quotes nor depth
    have step : Quoting.step (state, depth) c = (state.next c, depth) := by
      cases start
      subst symbol
      cases found <;> rfl
    rw [cutsAt_divide, text_cutFrom]
    constructor
    · rintro (⟨rfl, rfl, rfl⟩ | ⟨more, rfl, cuts⟩)
      · exact ⟨by rw [symbol]; rfl, start⟩
      · obtain ⟨rfl, position⟩ := ih.1 cuts
        exact ⟨by rw [symbol]; rfl, by rw [← symbol, List.foldl_cons, step, position]⟩
    · rintro ⟨split, position⟩
      cases front with
      | nil =>
        obtain ⟨same, rfl⟩ := List.cons.inj split
        exact Or.inl ⟨rfl, symbol_injective (same.symm.trans symbol), rfl⟩
      | cons d more =>
        obtain ⟨rfl, rfl⟩ := List.cons.inj split
        rw [List.foldl_cons, step] at position
        exact Or.inr ⟨more, by rw [symbol], ih.2 ⟨rfl, position⟩⟩
  | case3 state depth c behind none ih =>
    rw [cutsAt_grow]
    constructor
    · rintro ⟨more, rfl, cuts⟩
      obtain ⟨rfl, position⟩ := ih.1 cuts
      exact ⟨rfl, position⟩
    · rintro ⟨split, position⟩
      cases front with
      | nil =>
        -- it would have been cut here
        obtain ⟨same, _⟩ := List.cons.inj split
        rw [connectiveAt?_eq_some_iff.2 ⟨position, same⟩] at none
        cases none
      | cons d more =>
        obtain ⟨rfl, rfl⟩ := List.cons.inj split
        exact ⟨more, rfl, ih.2 ⟨rfl, position⟩⟩

/-- **A level is cut at the connectives that join its parts.** -/
theorem mem_connectives_cutFrom {state : Quoting} {depth : Int} {s : List Char} :
    connective ∈ (cutFrom state depth s).connectives ↔
      ∃ front rest, s = front ++ connective.symbol :: rest ∧
        front.foldl Quoting.step (state, depth) = (.outside, 0) := by
  simp only [mem_connectives_iff, cutsAt_cutFrom]

theorem joins_iff {level : List Char} :
    Joins connective level ↔ connective ∈ (cut level).connectives :=
  mem_connectives_cutFrom.symm

/-- **A level is mixed** when some connective in it differs from the first one. -/
theorem isMixed_iff {level : List Char} (first : (cut level).connectives.head? = some connective) :
    IsMixed level ↔ ∃ other ∈ (cut level).connectives, other ≠ connective := by
  have mem : connective ∈ (cut level).connectives := List.mem_of_mem_head? first
  rw [IsMixed, joins_iff, joins_iff]
  cases connective with
  | and =>
    rw [and_iff_right mem]
    -- there are two connectives, so what differs from one is the other
    refine ⟨fun mem => ⟨.or, mem, by decide⟩, ?_⟩
    rintro ⟨other, mem, different⟩
    cases other with
    | and => exact absurd rfl different
    | or => exact mem
  | or =>
    rw [and_iff_left mem]
    refine ⟨fun mem => ⟨.and, mem, by decide⟩, ?_⟩
    rintro ⟨other, mem, different⟩
    cases other with
    | and => exact mem
    | or => exact absurd rfl different

/-- An undivided level is not mixed. -/
theorem not_isMixed_of_whole {level : List Char} (whole : (cut level).rest = []) :
    ¬ IsMixed level := by
  rintro ⟨joins, _⟩
  have mem := joins_iff.1 joins
  rw [Pieces.connectives, whole] at mem
  cases mem

end Connectives

/-! ### Both readings of a text -/

/-- **How a strict reading compares with a lenient one**: both give the same expression, or the
same fault, or the strict one refuses a mixed level. -/
inductive Compared (read : Bool → Except SyntaxFault Expression) (visits : List Char → Prop) : Prop
  | agree {expression : Expression} (strict : read true = .ok expression)
      (lenient : read false = .ok expression) (pure : ∀ level, visits level → ¬ IsMixed level)
  | fail {fault : SyntaxFault} (strict : read true = .error fault)
      (lenient : read false = .error fault)
  | refuse {level : List Char} (visited : visits level) (mixed : IsMixed level)
      (strict : read true = .error (.mixedConnectives (String.ofList level)))

section Compare

variable {s piece : List Char}

/-- The pieces of a level are compared as the levels of their own. -/
theorem compared_readPiece
    (levels : Compared (fun strict => readLevel strict piece) (Visits piece)) :
    Compared (fun strict => readPiece strict piece) (Visits piece) := by
  by_cases empty : (Text.trim piece).isEmpty = true
  · have refused (strict : Bool) : readPiece strict piece = .error .missingOperand := by
      rw [readPiece, if_pos empty]
    exact .fail (refused true) (refused false)
  · have same (strict : Bool) : readPiece strict piece = readLevel strict piece := by
      rw [readPiece, if_neg empty]
    simpa only [same] using levels

/-- **The pieces of a level** are read alike up to the first one that is not. -/
theorem compared_pieces {pieces : List (List Char)} {connective : Connective}
    (each : ∀ piece ∈ pieces, Compared (fun strict => readPiece strict piece) (Visits piece)) :
    Compared (fun strict => (pieces.mapM (readPiece strict)).map (.group connective))
      (fun level => ∃ piece ∈ pieces, Visits piece level) := by
  have lenient {piece : List Char} {expression : Expression} (mem : piece ∈ pieces)
      (read : readPiece true piece = .ok expression) : readPiece false piece = .ok expression ∧
        ∀ level, Visits piece level → ¬ IsMixed level := by
    rcases each piece mem with ⟨strict, lenient, pure⟩ | ⟨strict, _⟩ | ⟨_, _, strict⟩
    · obtain rfl := Except.ok.inj (strict.symm.trans read)
      exact ⟨lenient, pure⟩
    · cases strict.symm.trans read
    · cases strict.symm.trans read
  cases strict : pieces.mapM (readPiece true) with
  | ok children =>
    -- all pieces are read strictly, so they are read leniently as the same
    have same : pieces.mapM (readPiece false) = .ok children :=
      Outcome.mapM_eq_ok_of_imp strict fun piece mem expression read => (lenient mem read).1
    have read (strict : Bool) (each : pieces.mapM (readPiece strict) = .ok children) :
        (pieces.mapM (readPiece strict)).map (Expression.group connective) =
          .ok (.group connective children) := by
      rw [each]
      rfl
    refine .agree (read true strict) (read false same) ?_
    rintro level ⟨piece, mem, visits⟩
    obtain ⟨_, _, read⟩ := (Outcome.exists_of_mapM_eq_ok strict).1 piece mem
    exact (lenient mem read).2 level visits
  | error fault =>
    -- the strict reading stops at the first piece that it does not read
    obtain ⟨front, piece, rest, rfl, others, failed⟩ := Outcome.mapM_eq_error_iff.1 strict
    have mem : piece ∈ front ++ piece :: rest := by simp
    rcases each piece mem with ⟨read, _, _⟩ | ⟨read, lenient'⟩ | ⟨visited, mixed, read⟩
    · cases failed.symm.trans read
    · obtain rfl := Except.error.inj (read.symm.trans failed)
      -- the lenient reading comes as far, and fails there as well
      have same : (front ++ piece :: rest).mapM (readPiece false) =
          (front ++ piece :: rest).mapM (readPiece true) := by
        rw [strict]
        refine Outcome.mapM_eq_error_iff.2 ⟨front, piece, rest, rfl, fun other mem => ?_, lenient'⟩
        obtain ⟨expression, read⟩ := others other mem
        exact ⟨expression, (lenient (List.mem_append_left _ mem) read).1⟩
      exact .fail (by rw [strict]; rfl) (by rw [same, strict]; rfl)
    · obtain rfl := Except.error.inj (read.symm.trans failed)
      exact .refuse ⟨piece, mem, visited⟩ mixed (by rw [strict]; rfl)

/-- **Every text is read alike, or it has a mixed level.** -/
theorem compared (s : List Char) : Compared (fun strict => readLevel strict s) (Visits s) := by
  induction s using level_induction with
  | step s ih =>
    by_cases empty : unwrap s = []
    · have refused (strict : Bool) : readLevel strict s = .error .emptyCondition := by
        rw [readLevel, empty]
        rfl
      exact .fail (refused true) (refused false)
    cases cuts : (cut (unwrap s)).rest with
    | nil =>
      -- without a connective there is nothing to be strict about
      have same (strict : Bool) :
          readLevel strict s = (readCondition (unwrap s)).map .condition :=
        readLevel_of_whole rfl empty cuts
      cases found : readCondition (unwrap s) with
      | error fault => exact .fail (by rw [same, found]; rfl) (by rw [same, found]; rfl)
      | ok condition =>
        have read (strict : Bool) : readLevel strict s = .ok (.condition condition) := by
          rw [same, found]
          rfl
        refine .agree (read true) (read false) ?_
        intro level visits
        cases visits with
        | here => exact not_isMixed_of_whole cuts
        | inside divided => exact absurd cuts divided
    | cons entry rest =>
      obtain ⟨connective, piece⟩ := entry
      have divided : (cut (unwrap s)).rest ≠ [] := cuts ▸ List.cons_ne_nil _ _
      have first : (cut (unwrap s)).connectives.head? = some connective := by
        rw [Pieces.connectives, cuts]
        rfl
      have same (strict : Bool) : readLevel strict s =
          if strict && (cut (unwrap s)).connectives.any (· ≠ connective) then
            .error (.mixedConnectives (String.ofList (unwrap s)))
          else ((cut (unwrap s)).all.mapM (readPiece strict)).map (.group connective) :=
        readLevel_of_pieces rfl rfl cuts
      have mixed_iff := isMixed_iff first
      by_cases mixed : IsMixed (unwrap s)
      · -- a mixed level is refused before its pieces are read
        obtain ⟨other, mem, different⟩ := mixed_iff.1 mixed
        refine .refuse .here mixed ?_
        rw [same, if_pos]
        exact List.any_eq_true.2 ⟨other, mem, decide_eq_true different⟩
      · -- both readings go on with the pieces
        have pieces (strict : Bool) : readLevel strict s =
            ((cut (unwrap s)).all.mapM (readPiece strict)).map (.group connective) := by
          rw [same, if_neg]
          rw [Bool.and_eq_true, List.any_eq_true]
          rintro ⟨_, other, mem, different⟩
          exact mixed (mixed_iff.2 ⟨other, mem, of_decide_eq_true different⟩)
        have each : Compared (fun strict =>
            ((cut (unwrap s)).all.mapM (readPiece strict)).map (.group connective))
              (fun level => ∃ piece ∈ (cut (unwrap s)).all, Visits piece level) :=
          compared_pieces fun piece mem => compared_readPiece (ih divided piece mem)
        simp only [pieces]
        rcases each with
          ⟨strict, lenient, pure⟩ | ⟨strict, lenient⟩ | ⟨⟨piece, mem, visits⟩, mixed, strict⟩
        · refine .agree strict lenient fun level visits => ?_
          cases visits with
          | here => exact mixed
          | inside _ mem visits => exact pure level ⟨_, mem, visits⟩
        · exact .fail strict lenient
        · exact .refuse (.inside divided mem visits) mixed strict

/-- Both readings of a query begin with the same checks. -/
theorem compared_read (query : String) :
    Compared (fun strict => read strict query) (Visits query.toList) := by
  -- the checks come before the levels, and they do not depend on strictness
  by_cases blank : Text.isBlankText query = true
  · have refused (strict : Bool) : read strict query = .error .emptyQuery := by
      rw [read, if_pos blank]
    exact .fail (refused true) (refused false)
  cases checked : checkStructure query.toList with
  | error fault =>
    have refused (strict : Bool) : read strict query = .error fault := by
      rw [read, if_neg blank, readChecked, checked]
    exact .fail (refused true) (refused false)
  | ok =>
    have levels (strict : Bool) : read strict query = readLevel strict query.toList := by
      rw [read, if_neg blank, readChecked, checked]
    simpa only [levels] using compared query.toList

end Compare

/-- **A strict reading only refuses mixed levels.** What it reads is read leniently as the same
expression. What is read leniently it reads as the same expression or refuses for a mixed level, and
it does the latter exactly if some level of the query is mixed. What cannot be read leniently cannot
be read strictly. -/
theorem read_strictly (query : String) :
    (∀ expression, read true query = .ok expression → read false query = .ok expression) ∧
    (∀ expression, read false query = .ok expression →
      (read true query = .ok expression ∨
        ∃ level, Visits query.toList level ∧ IsMixed level ∧
          read true query = .error (.mixedConnectives (String.ofList level))) ∧
      ((∃ fault, read true query = .error fault) ↔
        ∃ level, Visits query.toList level ∧ IsMixed level)) ∧
    (∀ fault, read false query = .error fault → ∃ fault', read true query = .error fault') := by
  rcases compared_read query with
    ⟨strict, lenient, pure⟩ | ⟨strict, lenient⟩ | ⟨visited, mixed, strict⟩
  · -- both read it, and no level is mixed
    rw [strict, lenient]
    refine ⟨fun expression => id, fun expression same => ⟨Or.inl same, ?_⟩,
      fun _ failed => (nomatch failed)⟩
    refine iff_of_false (fun ⟨_, failed⟩ => (nomatch failed)) ?_
    rintro ⟨level, visits, mixed⟩
    exact pure level visits mixed
  · -- both refuse it
    rw [strict, lenient]
    exact ⟨fun _ read => (nomatch read), fun _ read => (nomatch read), fun fault _ => ⟨_, rfl⟩⟩
  · -- the strict reading refuses a mixed level
    rw [strict]
    refine ⟨fun _ read => (nomatch read), fun expression _ => ?_, fun fault _ => ⟨_, rfl⟩⟩
    exact ⟨Or.inr ⟨_, visited, mixed, rfl⟩, iff_of_true ⟨_, rfl⟩ ⟨_, visited, mixed⟩⟩

/-- A query with a mixed level inside of another one. -/
def mixedQuery : String := "a IS NULL & (b IS NULL | c IS NULL & d IS NULL)"

/-- The tree of `mixedQuery`, in which the first connective of each level stands for all of them. -/
def mixedExpression : Expression :=
  .group .and [.condition ⟨"a", .isNull, .null⟩,
    .group .or [.condition ⟨"b", .isNull, .null⟩, .condition ⟨"c", .isNull, .null⟩,
      .condition ⟨"d", .isNull, .null⟩]]

/-- The mixed level of `mixedQuery`. -/
def mixedLevel : List Char := "b IS NULL | c IS NULL & d IS NULL".toList

theorem cut_mixedQuery : unwrap mixedQuery.toList = mixedQuery.toList ∧
    cut mixedQuery.toList =
      ⟨"a IS NULL ".toList, [(.and, " (b IS NULL | c IS NULL & d IS NULL)".toList)]⟩ :=
  ⟨by cbv, by rfl⟩

theorem cut_mixedLevel : unwrap " (b IS NULL | c IS NULL & d IS NULL)".toList = mixedLevel ∧
    cut mixedLevel =
      ⟨"b IS NULL ".toList, [(.or, " c IS NULL ".toList), (.and, " d IS NULL".toList)]⟩ :=
  ⟨by cbv, by rfl⟩

/-- A null check with a blank in front or behind. -/
theorem readPiece_nullCheck {piece : List Char} {path : String}
    (text : unwrap piece = path.toList ++ " IS NULL".toList)
    (there : (Text.trim piece).isEmpty = false)
    (whole : (cut (path.toList ++ " IS NULL".toList)).rest = [])
    (reads : readCondition (path.toList ++ " IS NULL".toList) = .ok ⟨path, .isNull, .null⟩) :
    readPiece false piece = .ok (.condition ⟨path, .isNull, .null⟩) :=
  readPiece_of_whole text there (by simp) whole reads

theorem read_mixedQuery : read false mixedQuery = .ok mixedExpression := by
  have a : readPiece false "a IS NULL ".toList = .ok (.condition ⟨"a", .isNull, .null⟩) :=
    readPiece_nullCheck (by cbv) (by rfl) (by rfl) (by rfl)
  have b : readPiece false "b IS NULL ".toList = .ok (.condition ⟨"b", .isNull, .null⟩) :=
    readPiece_nullCheck (by cbv) (by rfl) (by rfl) (by rfl)
  have c : readPiece false " c IS NULL ".toList = .ok (.condition ⟨"c", .isNull, .null⟩) :=
    readPiece_nullCheck (by cbv) (by rfl) (by rfl) (by rfl)
  have d : readPiece false " d IS NULL".toList = .ok (.condition ⟨"d", .isNull, .null⟩) :=
    readPiece_nullCheck (by cbv) (by rfl) (by rfl) (by rfl)
  have inner : readPiece false " (b IS NULL | c IS NULL & d IS NULL)".toList =
      .ok (.group .or [.condition ⟨"b", .isNull, .null⟩, .condition ⟨"c", .isNull, .null⟩,
        .condition ⟨"d", .isNull, .null⟩]) := by
    have pieces := Outcome.mapM_eq_ok_iff.2 (.cons b (.cons c (.cons d .nil)))
    have there : (Text.trim " (b IS NULL | c IS NULL & d IS NULL)".toList).isEmpty = false := by rfl
    rw [readPiece, there, readLevel_of_pieces cut_mixedLevel.1 cut_mixedLevel.2 rfl]
    exact congrArg (Except.map (Expression.group .or)) pieces
  have outer : readLevel false mixedQuery.toList = .ok mixedExpression := by
    have pieces := Outcome.mapM_eq_ok_iff.2 (.cons a (.cons inner .nil))
    rw [readLevel_of_pieces cut_mixedQuery.1 cut_mixedQuery.2 rfl]
    exact congrArg (Except.map (Expression.group .and)) pieces
  have there : Text.isBlankText mixedQuery = false := by rfl
  have structured : checkStructure mixedQuery.toList = .ok () := by rfl
  rw [read, there, if_neg Bool.false_ne_true, readChecked, structured]
  exact outer

/-- The lenient reading of `mixedQuery` succeeds, and the strict one refuses its inner level. A
query of one condition is read by both, and a blank one by neither. -/
theorem read_strictly_mixedQuery :
    (read false mixedQuery = .ok mixedExpression ∧ Visits mixedQuery.toList mixedLevel ∧
      IsMixed mixedLevel ∧ read true mixedQuery ≠ .ok mixedExpression ∧
      ∃ level, Visits mixedQuery.toList level ∧ IsMixed level ∧
        read true mixedQuery = .error (.mixedConnectives (String.ofList level))) ∧
    (read true "a IS NULL" = .ok (.condition ⟨"a", .isNull, .null⟩) ∧
      read false "a IS NULL" = .ok (.condition ⟨"a", .isNull, .null⟩)) ∧
    read false " " = .error .emptyQuery ∧ ∃ fault, read true " " = .error fault := by
  have single : read true "a IS NULL" = .ok (.condition ⟨"a", .isNull, .null⟩) := by
    have there : Text.isBlankText "a IS NULL" = false := by rfl
    have structured : checkStructure "a IS NULL".toList = .ok () := by rfl
    have text : unwrap "a IS NULL".toList = "a IS NULL".toList := by cbv
    rw [read, there, if_neg Bool.false_ne_true, readChecked, structured]
    exact readLevel_of_whole text (by decide) (by rfl)
  have blank : read false " " = .error .emptyQuery := by rfl
  obtain ⟨strict, _, _⟩ := read_strictly "a IS NULL"
  obtain ⟨_, _, refusedToo⟩ := read_strictly " "
  refine ⟨?_, ⟨single, strict _ single⟩, blank, refusedToo _ blank⟩
  -- the mixed level is the second piece of the query
  have visits : Visits mixedQuery.toList mixedLevel := by
    have divided : (cut (unwrap mixedQuery.toList)).rest ≠ [] := by
      rw [cut_mixedQuery.1, cut_mixedQuery.2]
      exact List.cons_ne_nil _ _
    have mem : " (b IS NULL | c IS NULL & d IS NULL)".toList ∈
        (cut (unwrap mixedQuery.toList)).all := by
      rw [cut_mixedQuery.1, cut_mixedQuery.2]
      exact List.mem_cons_of_mem _ List.mem_cons_self
    rw [← cut_mixedLevel.1]
    exact .inside divided mem .here
  have mixed : IsMixed mixedLevel := by
    rw [IsMixed, joins_iff, joins_iff, cut_mixedLevel.2]
    decide
  obtain ⟨_, lenient, _⟩ := read_strictly mixedQuery
  obtain ⟨outcome, refused⟩ := lenient mixedExpression read_mixedQuery
  obtain ⟨fault, failed⟩ := refused.2 ⟨mixedLevel, visits, mixed⟩
  have different : read true mixedQuery ≠ .ok mixedExpression := by
    rw [failed]
    intro same
    cases same
  exact ⟨read_mixedQuery, visits, mixed, different, outcome.resolve_left different⟩

end EntitySearch.Query
