import EntitySearch.Proofs.Query.Reading

/-!
# The levels of a query

The structure of a query is checked once, for the text as a whole. What is read afterwards are its
levels (`Visits`): the text without the parentheses that enclose all of it, the pieces of that text
between its connectives without theirs, and so on. Nothing checks the structure of a piece again,
and nothing has to:

* the structure check accepts closed texts and no others (`checkStructure_eq_ok_iff`);
* white space and enclosing parentheses are taken off a closed text without opening it
  (`Closed.trim`, `Closed.unwrap`);
* cutting loses nothing (`text_cutFrom`), the pieces of a closed text are closed, and no connective
  stands in them outside parentheses (`closed_of_mem_cut`), so every level of a closed text is
  closed (`Visits.closed`).

The conditions of a query that is read are what its undivided levels are read as
(`mem_conditions_iff`).
-/

namespace EntitySearch.Query

/-! ### What the structure check accepts -/

section Check

variable {s : List Char} {mark : Char} {state : Quoting} {depth : Int}

/-- A text whose structure is in order ends outside quotes. -/
theorem after_of_checkFrom (checked : checkFrom state depth s = .ok ()) :
    state.after s = .outside := by
  fun_induction checkFrom state depth s with
  | case1 | case2 | case4 => cases checked
  | case3 state depth outside _ => exact not_not.1 outside
  | case5 state depth c rest _ _ ih => exact ih checked

/-- **Quotes that are closed** are closed by the first mark that no backslash stands in front of. -/
theorem exists_closing (closes : (Quoting.inside mark).after s = .outside) :
    ∃ body rest, Inside mark body ∧ s = body ++ mark :: rest := by
  -- a backslash takes the next character along, so the induction is on the length
  induction length : s.length using Nat.strong_induction_on generalizing s with
  | _ _ ih =>
    subst length
    cases s with
    | nil => cases closes
    | cons c s =>
      -- the mark itself, a backslash with what it escapes, or any other character
      by_cases close : c = mark
      · subst close
        exact ⟨[], s, .nil, rfl⟩
      by_cases mild : c = '\\'
      · subst mild
        rw [Quoting.after, List.foldl_cons, Quoting.next_backslash] at closes
        cases s with
        | nil => cases closes
        | cons d s =>
          obtain ⟨body, rest, inside, rfl⟩ := ih s.length (by simp) closes rfl
          exact ⟨'\\' :: d :: body, rest, .escaped inside, rfl⟩
      · rw [Quoting.after, List.foldl_cons, Quoting.next_inside mild close] at closes
        obtain ⟨body, rest, inside, rfl⟩ := ih s.length (by simp) closes rfl
        exact ⟨c :: body, rest, .plain mild close inside, rfl⟩

/-- **A text that closes a number of parentheses**: closed texts with that many closing parentheses
between them. -/
inductive Closing : Nat → List Char → Prop
  | none {s : List Char} (closed : Closed true s) : Closing 0 s
  | more {depth : Nat} {inner rest : List Char} (closed : Closed true inner)
      (behind : Closing depth rest) : Closing (depth + 1) (inner ++ ')' :: rest)

/-- A closed text in front closes nothing. -/
theorem Closing.append {front : List Char} {depth : Nat} (closed : Closed true front)
    (closing : Closing depth s) : Closing depth (front ++ s) := by
  cases closing with
  | none rest => exact .none (closed.append rest)
  | more inner behind =>
    rw [← List.append_assoc]
    exact .more (closed.append inner) behind

/-- An opening parenthesis in front takes the first closing one. -/
theorem Closing.opened {depth : Nat} (closing : Closing (depth + 1) s) :
    Closing depth ('(' :: s) := by
  obtain ⟨⟩ | @⟨_, inner, rest, closed, behind⟩ := closing
  have enclosed : '(' :: (inner ++ ')' :: rest) = '(' :: (inner ++ [')']) ++ rest := by simp
  rw [enclosed]
  exact behind.append (.parentheses closed)

/-- **What the check accepts** at a depth closes as many parentheses. -/
theorem closing_of_checkFrom {depth : Nat} (checked : checkFrom .outside depth s = .ok ()) :
    Closing depth s := by
  -- quotes are passed over as a whole, so the induction is on the length
  induction length : s.length using Nat.strong_induction_on generalizing s depth with
  | _ _ ih =>
    subst length
    cases s with
    | nil =>
      rw [checkFrom, if_neg (not_not.2 rfl)] at checked
      split at checked
      · cases checked
      · next level =>
        -- at the end no parenthesis may be open
        obtain rfl : depth = 0 := by omega
        exact .none .nil
    | cons c s =>
      by_cases quote : isQuote c = true
      · -- what follows the mark is the rest of a quoted text
        rw [checkFrom_passesOver.silent _ _ _ _ (Quoting.isPlain_quote quote)
            (Int.natCast_nonneg _),
          Quoting.next_quote quote] at checked
        obtain ⟨body, rest, inside, rfl⟩ := exists_closing (after_of_checkFrom checked)
        rw [checkFrom_passesOver.inside inside quote (Int.natCast_nonneg _), foldr_idle] at checked
        have behind := ih rest.length (by simp; omega) checked rfl
        have quoted : c :: (body ++ c :: rest) = c :: (body ++ [c]) ++ rest := by simp
        rw [quoted]
        exact behind.append (.marks quote inside)
      · have quote := Bool.eq_false_iff.2 quote
        rw [checkFrom, Quoting.isPlain_outside quote, if_pos rfl, Quoting.next_outside quote]
          at checked
        -- a parenthesis that opens goes one deeper, and what is read behind it closes one more
        by_cases opens : c = '('
        · subst opens
          have level : depthAfter depth '(' = (depth + 1 : Nat) := rfl
          rw [level, if_neg (by omega)] at checked
          exact (ih s.length (by simp) checked rfl).opened
        by_cases closes : c = ')'
        · subst closes
          have level : depthAfter depth ')' = depth - 1 := rfl
          rw [level] at checked
          split at checked
          · cases checked
          · next above =>
            -- a parenthesis that closes belongs to one that was open
            obtain ⟨below, rfl⟩ : ∃ below, depth = below + 1 := ⟨depth - 1, by omega⟩
            have less : ((below + 1 : Nat) : Int) - 1 = below := by omega
            rw [less] at checked
            exact .more .nil (ih s.length (by simp) checked rfl)
        · have level : depthAfter depth c = depth := by rw [depthAfter, if_neg opens, if_neg closes]
          rw [level, if_neg (by omega)] at checked
          have single : Closed true [c] := by
            cases found : Connective.ofSymbol? c with
            | none => exact .ordinary (by simp [isOrdinary, quote, opens, closes, found]) .nil
            | some connective =>
              obtain rfl := Connective.ofSymbol?_eq_some_iff.1 found
              exact .connective .nil
          exact (ih s.length (by simp) checked rfl).append single

/-- **The structure check accepts closed texts** and no others. -/
theorem checkStructure_eq_ok_iff : checkStructure s = .ok () ↔ Closed true s := by
  refine ⟨fun checked => ?_, checkStructure_of_closed⟩
  have closing : Closing 0 s := closing_of_checkFrom checked
  cases closing with
  | none closed => exact closed

end Check

/-! ### Parts of closed texts -/

/-- The last character of a text in two parts stands in the second part. -/
theorem exists_of_concat_eq {s front rest : List Char} {c mark : Char}
    (whole : s ++ [c] = front ++ mark :: rest) (other : c ≠ mark) :
    ∃ more, rest = more ++ [c] ∧ s = front ++ mark :: more := by
  rcases List.eq_nil_or_concat' rest with rfl | ⟨more, d, rfl⟩
  · exact absurd (List.cons.inj (List.append_inj' whole rfl).2).1 other
  · have split : s ++ [c] = (front ++ mark :: more) ++ [d] := by simpa using whole
    obtain ⟨same, last⟩ := List.append_inj' split rfl
    obtain rfl := (List.cons.inj last).1
    exact ⟨more, rfl, same⟩

theorem ne_quote_of_isOrdinary {c mark : Char} (ordinary : isOrdinary c = true)
    (quote : isQuote mark = true) : c ≠ mark := by
  rintro rfl
  rw [isQuote_of_isOrdinary ordinary] at quote
  cases quote

namespace Closed

variable {joins : Bool} {c : Char} {s : List Char}

/-- A closed text is closed without an ordinary character at its start. -/
theorem of_cons (plain : isOrdinary c = true) (closed : Closed joins (c :: s)) :
    Closed joins s := by
  -- the first step of the derivation decides: all steps but one begin with another character
  generalize whole : c :: s = t at closed
  cases closed with
  | nil => cases whole
  | ordinary _ rest =>
    obtain ⟨rfl, rfl⟩ := List.cons.inj whole
    exact rest
  | @connective connective _ _ =>
    obtain ⟨rfl, rfl⟩ := List.cons.inj whole
    cases connective <;> cases plain
  | quoted quote _ _ => exact absurd (List.cons.inj whole).1 (ne_quote_of_isOrdinary plain quote)
  | enclosed _ _ =>
    obtain ⟨rfl, _⟩ := List.cons.inj whole
    cases plain

/-- A closed text is closed without an ordinary character at its end. -/
theorem of_concat (plain : isOrdinary c = true) (closed : Closed joins (s ++ [c])) :
    Closed joins s := by
  generalize whole : s ++ [c] = t at closed
  induction closed generalizing s with
  | nil => simp at whole
  | ordinary first _ ih =>
    cases s with
    | nil => exact .nil
    | cons d s =>
      obtain ⟨rfl, rest⟩ := List.cons.inj whole
      exact .ordinary first (ih rest)
  | connective _ ih =>
    cases s with
    | nil => exact .nil
    | cons d s =>
      obtain ⟨rfl, rest⟩ := List.cons.inj whole
      exact .connective (ih rest)
  | @quoted _ mark body _ quote inside _ ih =>
    have whole : s ++ [c] = (mark :: body) ++ mark :: _ := whole
    -- the last character is neither a mark nor a parenthesis, so it is behind what these close
    obtain ⟨more, rfl, rfl⟩ := exists_of_concat_eq whole (ne_quote_of_isOrdinary plain quote)
    exact .quoted quote inside (ih rfl)
  | @enclosed _ inner _ closed _ _ ih =>
    have whole : s ++ [c] = ('(' :: inner) ++ ')' :: _ := whole
    have other : c ≠ ')' := by
      rintro rfl
      cases plain
    obtain ⟨more, rfl, rfl⟩ := exists_of_concat_eq whole other
    exact .enclosed closed (ih rfl)

/-- **White space around a closed text** can be taken off. -/
theorem trim (closed : Closed joins s) : Closed joins (Text.trim s) := by
  have ordinary {c : Char} (blank : Text.isBlank c = true) : isOrdinary c = true :=
    isOrdinary_of_isMild (isMild_of_isBlank blank)
  exact Text.trim_induction (fun c s blank => of_cons (ordinary blank))
    (fun s c blank => of_concat (ordinary blank)) closed

/-- **What is enclosed** in a closed text is closed. -/
theorem of_enclosed? {inner : List Char} (closed : Closed joins s)
    (found : enclosed? s = some inner) : Closed true inner := by
  cases s with
  | nil => cases found
  | cons c s =>
    rw [enclosed?] at found
    split at found
    · next encloses =>
      simp only [Bool.and_eq_true, decide_eq_true_eq] at encloses
      obtain ⟨⟨rfl, _⟩, closes⟩ := encloses
      -- of all closed texts only those in parentheses start with one
      generalize whole : '(' :: s = t at closed
      cases closed with
      | nil => cases whole
      | ordinary plain _ =>
        obtain ⟨rfl, _⟩ := List.cons.inj whole
        cases plain
      | @connective connective _ _ => cases connective <;> cases (List.cons.inj whole).1
      | quoted quote _ _ =>
        obtain ⟨rfl, _⟩ := List.cons.inj whole
        cases quote
      | @enclosed _ inner more closed _ =>
        obtain ⟨_, rfl⟩ := List.cons.inj whole
        -- the parenthesis is closed by the last character, so nothing is behind it
        rw [closesAtEnd_parentheses closed, List.isEmpty_iff] at closes
        subst closes
        rw [List.dropLast_concat] at found
        exact Option.some.inj found ▸ closed
    · cases found

/-- **The text of a level** of a closed text is closed. -/
theorem unwrap (closed : Closed true s) : Closed true (Query.unwrap s) := by
  fun_induction Query.unwrap s with
  | case1 s inner found ih => exact ih (closed.trim.of_enclosed? found)
  | case2 s _ => exact closed.trim

end Closed

/-! ### Pieces -/

/-- The text of pieces with their connectives between them. -/
def Pieces.text (pieces : Pieces) : List Char :=
  pieces.first ++ pieces.rest.flatMap fun (connective, piece) => connective.symbol :: piece

section Pieces

variable {s : List Char}

/-- **Cutting loses nothing**: the pieces and the connectives make up the text. -/
theorem text_cutFrom (state : Quoting) (depth : Int) (s : List Char) :
    (cutFrom state depth s).text = s := by
  fun_induction cutFrom state depth s with
  | case1 => rfl
  | case2 state depth c rest connective found ih =>
    -- the connective is put back as its symbol
    have symbol : c = connective.symbol := by
      rw [connectiveAt?] at found
      split at found
      · exact Connective.ofSymbol?_eq_some_iff.1 found
      · cases found
    have split (pieces : Pieces) :
        (pieces.divide connective).text = connective.symbol :: pieces.text := rfl
    rw [split, ih, symbol]
  | case3 state depth c rest _ ih =>
    have grown (pieces : Pieces) : (pieces.grow c).text = c :: pieces.text := rfl
    rw [grown, ih]

/-- **The pieces of a closed text are closed**, and no connective joins parts of them. -/
theorem closed_of_mem_cut {joins : Bool} (closed : Closed joins s) :
    ∀ piece ∈ (cut s).all, Closed false piece := by
  -- what stands in front of the rest of the text becomes a part of the first piece
  have grown {front rest : List Char} (first : Closed false front)
      (others : ∀ piece ∈ (cut rest).all, Closed false piece) :
      ∀ piece ∈ (cut (front ++ rest)).all, Closed false piece := by
    obtain ⟨next, others⟩ := List.forall_mem_cons.1 others
    rw [cut_front first]
    exact List.forall_mem_cons.2 ⟨first.append next, others⟩
  induction closed with
  | nil => exact List.forall_mem_singleton.2 .nil
  | ordinary plain _ ih => exact grown (.ordinary plain .nil) ih
  | connective _ ih =>
    -- a connective ends a piece, which is empty so far
    rw [← List.nil_append (_ :: _), cut_append .nil]
    exact List.forall_mem_cons.2 ⟨.nil, ih⟩
  | @quoted _ mark body s quote inside _ ih =>
    have front := grown (.marks quote inside) ih
    simpa using front
  | @enclosed _ inner s closed _ _ ih =>
    have front := grown (.parentheses closed) ih
    simpa using front

end Pieces

/-! ### Levels -/

/-- **The levels that reading a text visits**: the text without white space and parentheses around
it, and if connectives divide that, the levels of the pieces. -/
inductive Visits : List Char → List Char → Prop
  | here {s : List Char} : Visits s (unwrap s)
  | inside {s piece level : List Char} (divided : (cut (unwrap s)).rest ≠ [])
      (mem : piece ∈ (cut (unwrap s)).all) (visits : Visits piece level) : Visits s level

/-- **Every level of a closed text is closed.** -/
theorem Visits.closed {s level : List Char} (visits : Visits s level) (closed : Closed true s) :
    Closed true level := by
  induction visits with
  | here => exact closed.unwrap
  | inside _ mem _ ih => exact ih (closed_of_mem_cut closed.unwrap _ mem).weaken

/-- **Induction on the levels** of a text: what holds of a text when it holds of the pieces that its
level is divided into holds of every text. -/
theorem level_induction {motive : List Char → Prop}
    (step : ∀ s, ((cut (unwrap s)).rest ≠ [] → ∀ piece ∈ (cut (unwrap s)).all, motive piece) →
      motive s) (s : List Char) : motive s := by
  induction length : s.length using Nat.strong_induction_on generalizing s with
  | _ _ ih =>
    subst length
    refine step s fun divided piece mem => ih piece.length ?_ piece rfl
    have shorter := length_lt_of_mem_cut divided mem
    have unwrapped := length_unwrap_le s
    omega

section Levels

variable {strict : Bool} {s : List Char} {expression : Expression}

theorem readPiece_eq_ok (read : readPiece strict s = .ok expression) :
    readLevel strict s = .ok expression := by
  rw [readPiece] at read
  split at read
  · cases read
  · exact read

/-- **What a level is read as**: an undivided one as a condition, and one that connectives divide as
the group of its pieces. A strict reading accepts one connective only. -/
theorem readLevel_eq_ok_iff :
    readLevel strict s = .ok expression ↔
      ((cut (unwrap s)).rest = [] ∧
        ∃ condition, readCondition (unwrap s) = .ok condition ∧ expression = .condition condition) ∨
      ∃ connective children, (cut (unwrap s)).connectives.head? = some connective ∧
        (strict = true → ∀ other ∈ (cut (unwrap s)).connectives, other = connective) ∧
        (cut (unwrap s)).all.mapM (readPiece strict) = .ok children ∧
        expression = .group connective children := by
  by_cases empty : unwrap s = []
  · -- nothing is read from an empty level
    have refused : readLevel strict s = .error .emptyCondition := by
      rw [readLevel, empty]
      rfl
    have condition : readCondition [] = .error (.invalidCondition "") := by rfl
    rw [refused, empty, condition]
    simp [cut, cutFrom, Pieces.connectives]
  cases cuts : (cut (unwrap s)).rest with
  | nil =>
    rw [readLevel_of_whole rfl empty cuts, Outcome.map_eq_ok_iff, Pieces.connectives, cuts]
    simp [eq_comm]
  | cons entry rest =>
    obtain ⟨connective, piece⟩ := entry
    -- the first connective gives the group its own
    have first : (cut (unwrap s)).connectives.head? = some connective := by
      rw [Pieces.connectives, cuts]
      rfl
    rw [readLevel_of_pieces rfl rfl cuts, first]
    constructor
    · intro read
      split at read
      · cases read
      · next pure =>
        obtain ⟨children, each, rfl⟩ := Outcome.map_eq_ok_iff.1 read
        refine Or.inr ⟨connective, children, rfl, ?_, each, rfl⟩
        rintro rfl other mem
        rw [Bool.true_and, List.any_eq_true] at pure
        by_contra different
        exact pure ⟨other, mem, decide_eq_true different⟩
    · rintro (⟨whole, _⟩ | ⟨_, children, same, pure, each, rfl⟩)
      · cases whole
      · obtain rfl := Option.some.inj same
        rw [if_neg, each]
        · rfl
        · rw [Bool.and_eq_true, List.any_eq_true]
          rintro ⟨strict, other, mem, different⟩
          exact of_decide_eq_true different (pure strict other mem)

theorem mem_conditionsOf {condition : Condition} {children : List Expression} :
    condition ∈ Expression.conditionsOf children ↔
      ∃ child ∈ children, condition ∈ child.conditions := by
  induction children with
  | nil => simp [Expression.conditionsOf]
  | cons child children ih => simp [Expression.conditionsOf, ih]

/-- **The conditions of a query** are what the undivided levels are read as. -/
theorem mem_conditions_iff (read : readLevel strict s = .ok expression) {condition : Condition} :
    condition ∈ expression.conditions ↔
      ∃ level, Visits s level ∧ (cut level).rest = [] ∧ readCondition level = .ok condition := by
  induction s using level_induction generalizing expression with
  | step s ih =>
    -- an undivided level has its own condition, a divided one those of its pieces
    rcases readLevel_eq_ok_iff.1 read with
      ⟨whole, found, readsFound, rfl⟩ | ⟨connective, children, first, _, each, rfl⟩
    · constructor
      · intro mem
        obtain rfl := List.mem_singleton.1 mem
        exact ⟨_, .here, whole, readsFound⟩
      · rintro ⟨level, visits, _, reads⟩
        cases visits with
        | here =>
          obtain rfl := Except.ok.inj (readsFound.symm.trans reads)
          exact List.mem_singleton_self _
        | inside divided _ _ => exact absurd whole divided
    · -- there is a connective, so the level itself is no condition
      have divided : (cut (unwrap s)).rest ≠ [] := by
        intro whole
        rw [Pieces.connectives, whole] at first
        cases first
      obtain ⟨ofPieces, ofChildren⟩ := Outcome.exists_of_mapM_eq_ok each
      rw [Expression.conditions, mem_conditionsOf]
      constructor
      · rintro ⟨child, mem, inChild⟩
        obtain ⟨piece, piece_mem, reads⟩ := ofChildren child mem
        obtain ⟨level, visits, found⟩ :=
          (ih divided piece piece_mem (readPiece_eq_ok reads)).1 inChild
        exact ⟨level, .inside divided piece_mem visits, found⟩
      · rintro ⟨level, visits, whole, reads⟩
        cases visits with
        | here => exact absurd whole divided
        | @inside _ piece _ _ piece_mem visits =>
          obtain ⟨child, mem, readsChild⟩ := ofPieces piece piece_mem
          exact ⟨child, mem,
            (ih divided piece piece_mem (readPiece_eq_ok readsChild)).2
              ⟨level, visits, whole, reads⟩⟩

/-- **What a query is read as**: its level, if the query is not blank and its text is closed. -/
theorem read_eq_ok_iff {query : String} :
    read strict query = .ok expression ↔ Text.isBlankText query = false ∧
      Closed true query.toList ∧ readLevel strict query.toList = .ok expression := by
  rw [read, ← checkStructure_eq_ok_iff]
  by_cases blank : Text.isBlankText query = true
  · rw [if_pos blank, blank]
    simp
  · rw [if_neg blank, Bool.eq_false_iff.2 blank, readChecked]
    cases checkStructure query.toList with
    | error fault => simp
    | ok => simp

/-- A query that is an undivided level is read as a condition. -/
theorem read_of_whole {query : String} {condition : Condition}
    (there : Text.isBlankText query = false) (structured : checkStructure query.toList = .ok ())
    (text : unwrap query.toList = query.toList) (whole : (cut query.toList).rest = [])
    (found : readCondition query.toList = .ok condition) :
    read strict query = .ok (.condition condition) := by
  refine read_eq_ok_iff.2 ⟨there, checkStructure_eq_ok_iff.1 structured, ?_⟩
  rw [readLevel_eq_ok_iff, text]
  exact Or.inl ⟨whole, condition, found, rfl⟩

end Levels

end EntitySearch.Query
