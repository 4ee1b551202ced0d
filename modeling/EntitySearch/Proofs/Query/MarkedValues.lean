import EntitySearch.Proofs.Query.Symbols

/-!
# Values that begin with a quotation mark

Where quotes end is told twice: by the state of quoting when a query is checked and cut, and by the
first and the last character of a value when that is read. Reading asks for no more than the same
mark at both ends, so the two need not agree. Behind the first closing mark there may be more text,
and it becomes a part of the value: `a = 'x' b = 'y'` is a comparison with the text `x' b = 'y`, and
`a = 'x'y` one with the text `'x'y`, marks included.

The value of a comparison in a query is a part of a closed text (`Visits.closed`,
`after_trim_of_closed`), so a mark at its start is closed somewhere in it. `Marked.value` is what is
read then, and the main statement is for the conditions of whole queries (`read_markedValues`).
-/

namespace EntitySearch.Query

/-! ### Values by themselves -/

/-- **A text in quotes and more**: a mark, what stands in the quotes, the mark that closes them and
the text behind it. -/
structure MarkedText where
  mark : Char
  body : List Char
  rest : List Char
  quote : isQuote mark = true
  inside : Inside mark body

/-- **A text whose quotes close at its end** and nowhere in front of it. -/
def ClosesLast (s : List Char) : Prop :=
  Quoting.outside.after s = .outside ∧ ∀ front behind, s = front ++ behind → front ≠ [] →
    Quoting.outside.after front = .outside → behind = []

namespace MarkedText

/-- All characters of the text. -/
def chars (text : MarkedText) : List Char := text.mark :: (text.body ++ text.mark :: text.rest)

/-- **What is read from it.** If nothing follows the quotes it is what stands in them. If the same
mark stands at the very end it is everything up to there, and otherwise the text as it stands. -/
def value (text : MarkedText) : List Char :=
  if text.rest = [] then unescape text.body
  else if text.rest.getLast? = some text.mark then
    unescape (text.body ++ text.mark :: text.rest.dropLast)
  else text.chars

end MarkedText

section Values

variable {mark : Char} {s body rest : List Char}

/-- A mark that opens quotes begins neither a word nor a number. -/
theorem bareValue_of_quote (quote : isQuote mark = true) (s : List Char) :
    bareValue (mark :: s) = .text (String.ofList (mark :: s)) := by
  have letter : mark.isAlpha = false ∧ mark.toLower = mark := by
    rcases isQuote_iff.1 quote with rfl | rfl
    · exact ⟨rfl, rfl⟩
    · exact ⟨rfl, rfl⟩
  have integer : Number.readInt? Number.minInt64 Number.maxInt64 (mark :: s) = none := by
    rcases isQuote_iff.1 quote with rfl | rfl
    · rfl
    · rfl
  have magnitude : Double.readMagnitude? false (mark :: s) = none := by
    rcases isQuote_iff.1 quote with rfl | rfl
    · rfl
    · rfl
  -- the words of doubles have no quotation mark in them
  have word (other : String) (plain : other.toList.all (!isQuote ·) = true) :
      String.ofList ((mark :: s).map Char.toLower) ≠ other := by
    rintro rfl
    rw [String.toList_ofList, List.map_cons, letter.2, List.all_cons, quote] at plain
    cases plain
  have double : Double.read? (mark :: s) = none := by
    have unsigned : Double.read? (mark :: s) = Double.readUnsigned? false (mark :: s) := by
      rcases isQuote_iff.1 quote with rfl | rfl
      · rfl
      · rfl
    rw [unsigned, Double.readUnsigned?, magnitude]
    simp only [word "inf" rfl, word "infinity" rfl, word "nan" rfl, decide_false, Bool.or_self,
      Bool.false_eq_true, if_false]
  rw [bareValue, not_equalsIgnoringCase (by decide +kernel) List.mem_cons_self letter.1,
    not_equalsIgnoringCase (by decide +kernel) List.mem_cons_self letter.1,
    not_equalsIgnoringCase (by decide +kernel) List.mem_cons_self letter.1, integer, double,
    ite_self]
  rfl

/-- **What is read** from a text that begins with quotes. -/
theorem MarkedText.readValue_chars (text : MarkedText) :
    readValue text.chars = .ok (.text (String.ofList text.value)) := by
  obtain ⟨mark, body, rest, quote, inside⟩ := text
  rw [value, chars]
  dsimp only
  by_cases whole : rest = []
  · rw [if_pos whole, whole]
    exact readValue_marks quote body
  rw [if_neg whole]
  -- the last character is that of what follows the quotes
  have last : (body ++ mark :: rest).getLast? = rest.getLast? := by
    rw [List.getLast?_append_of_ne_nil _ (List.cons_ne_nil _ _), List.getLast?_cons]
    cases found : rest.getLast? with
    | none => exact absurd (List.getLast?_eq_none_iff.1 found) whole
    | some c => rfl
  split
  · next ends =>
    -- the text ends with the mark, so that it is taken for the closing one
    obtain ⟨more, rfl⟩ := List.getLast?_eq_some_iff.1 ends
    have text : mark :: (body ++ mark :: (more ++ [mark])) =
        mark :: ((body ++ mark :: more) ++ [mark]) := by simp
    rw [List.dropLast_concat, text]
    exact readValue_marks quote (body ++ mark :: more)
  · next ends =>
    -- the last character is not the mark, so neither reader of quotes takes the text
    have unquoted (other : Char) : quotedBy? other (mark :: (body ++ mark :: rest)) = none := by
      rw [quotedBy?, last]
      refine if_neg ?_
      rw [Bool.and_eq_true, decide_eq_true_eq, beq_iff_eq]
      rintro ⟨rfl, same⟩
      exact ends same
    have none : quoted? (mark :: (body ++ mark :: rest)) = none := by
      rw [quoted?, unquoted, unquoted]
    have there : (mark :: (body ++ mark :: rest)).isEmpty = false := rfl
    rw [readValue, there, if_neg Bool.false_ne_true, none, bareValue_of_quote quote]

end Values

/-! ### Where quotes end -/

section Quotes

variable {mark : Char} {s body : List Char}

/-- What stands between two marks leaves the quotes open. -/
theorem Inside.after (inside : Inside mark body) :
    (Quoting.inside mark).after body = .inside mark := by
  induction inside with
  | nil => rfl
  | plain mild other _ ih =>
    rw [Quoting.after, List.foldl_cons, Quoting.next_inside mild other]
    exact ih
  | escaped _ ih =>
    rw [Quoting.after, List.foldl_cons, Quoting.next_backslash, List.foldl_cons,
      Quoting.next_escaped]
    exact ih

/-- Every beginning of what stands between two marks leaves the quotes open. -/
theorem Inside.after_front {front behind : List Char} (inside : Inside mark (front ++ behind)) :
    (Quoting.inside mark).after front ≠ .outside := by
  generalize whole : front ++ behind = body at inside
  intro closed
  induction inside generalizing front with
  | nil =>
    obtain ⟨rfl, _⟩ := List.append_eq_nil_iff.1 whole
    cases closed
  | plain mild other _ ih =>
    cases front with
    -- an empty front has opened quotes and nothing else
    | nil => cases closed
    | cons c front =>
      obtain ⟨rfl, rest⟩ := List.cons.inj whole
      rw [Quoting.after, List.foldl_cons, Quoting.next_inside mild other] at closed
      exact ih rest closed
  | escaped _ ih =>
    cases front with
    | nil => cases closed
    | cons c front =>
      obtain ⟨rfl, rest⟩ := List.cons.inj whole
      rw [Quoting.after, List.foldl_cons, Quoting.next_backslash] at closed
      cases front with
      | nil => cases closed
      | cons d front =>
        obtain ⟨rfl, rest'⟩ := List.cons.inj rest
        rw [List.foldl_cons, Quoting.next_escaped] at closed
        exact ih rest' closed

/-- **Quotes close at the end of a text** exactly if nothing follows the first closing mark. -/
theorem MarkedText.closesLast_iff (text : MarkedText) : ClosesLast text.chars ↔ text.rest = [] := by
  obtain ⟨mark, body, rest, quote, inside⟩ := text
  -- up to the closing mark the quotes are opened and closed once
  have closes : Quoting.outside.after (mark :: (body ++ [mark])) = .outside := by
    rw [Quoting.after, List.foldl_cons, Quoting.next_quote quote, List.foldl_append]
    have opened := inside.after
    rw [Quoting.after] at opened
    rw [opened, List.foldl_cons, Quoting.next_mark quote]
    rfl
  rw [chars]
  constructor
  · rintro ⟨_, last⟩
    exact last (mark :: (body ++ [mark])) rest (by simp) (List.cons_ne_nil _ _) closes
  · intro whole
    obtain rfl : rest = [] := whole
    refine ⟨closes, fun front behind split nonempty outside => ?_⟩
    obtain ⟨c, front, rfl⟩ := List.exists_cons_of_ne_nil nonempty
    obtain ⟨rfl, rest⟩ := List.cons.inj split
    rw [Quoting.after, List.foldl_cons, Quoting.next_quote quote] at outside
    -- a proper beginning ends in front of the closing mark
    rcases List.eq_nil_or_concat' behind with rfl | ⟨more, d, rfl⟩
    · rfl
    · have split : body ++ [mark] = (front ++ more) ++ [d] := by simpa using rest
      obtain ⟨rfl, _⟩ := List.append_inj' split rfl
      exact absurd outside inside.after_front

/-- Trimming does not leave quotes open. -/
theorem after_trim (closes : Quoting.outside.after s = .outside) :
    Quoting.outside.after (Text.trim s) = .outside := by
  have quiet {c : Char} (blank : Text.isBlank c = true) : isQuote c = false :=
    isQuote_of_isMild (isMild_of_isBlank blank)
  refine Text.trim_induction (motive := fun s => Quoting.outside.after s = .outside)
    (fun c s blank closes => ?_) (fun s c blank closes => ?_) closes
  · rwa [Quoting.after, List.foldl_cons, Quoting.next_outside (quiet blank)] at closes
  · exact Quoting.after_of_concat (quiet blank) closes

/-- A text that begins with quotes and leaves none open. -/
theorem exists_markedText (quote : isQuote mark = true)
    (closes : Quoting.outside.after (mark :: s) = .outside) :
    ∃ text : MarkedText, text.chars = mark :: s := by
  rw [Quoting.after, List.foldl_cons, Quoting.next_quote quote] at closes
  obtain ⟨body, rest, inside, rfl⟩ := exists_closing closes
  exact ⟨⟨mark, body, rest, quote, inside⟩, rfl⟩

end Quotes

/-! ### Queries -/

/-- The conditions of a query are read from closed texts. -/
theorem exists_level {strict : Bool} {query : String} {expression : Expression}
    (reads : read strict query = .ok expression) {condition : Condition}
    (mem : condition ∈ expression.conditions) :
    ∃ level, Visits query.toList level ∧ Quoting.outside.after level = .outside ∧
      readCondition level = .ok condition := by
  obtain ⟨_, closed, reads⟩ := read_eq_ok_iff.1 reads
  obtain ⟨level, visits, _, found⟩ := (mem_conditions_iff reads).1 mem
  have closed := visits.closed closed
  exact ⟨level, visits, after_of_checkFrom (checkStructure_of_closed closed), found⟩

/-- **Values that begin with a quotation mark.** Every comparison of a query stands in one of its
levels as an attribute, a symbol and a raw value. A raw value that begins with a quotation mark is a
text in quotes and more, and it is read as the value of that: what stands in the quotes, if they
close at its end only, and otherwise what stands between its first and its last character or all of
it. -/
theorem read_markedValues {strict : Bool} {query : String} {expression : Expression}
    (reads : read strict query = .ok expression) {condition : Condition}
    (mem : condition ∈ expression.conditions)
    (compares : ∃ symbol, (symbol, condition.operation) ∈ symbols) :
    ∃ level symbol front behind, Visits query.toList level ∧
      (symbol, condition.operation) ∈ symbols ∧ Stands symbol front behind level ∧
      divided? level = some (condition.operation, front, behind) ∧
      condition.path = String.ofList (Text.trim front) ∧
      readValue (Text.trim behind) = .ok condition.value ∧
      ∀ mark s, Text.trim behind = mark :: s → isQuote mark = true →
        ∃ text : MarkedText, Text.trim behind = text.chars ∧
          (ClosesLast (Text.trim behind) ↔ text.rest = []) ∧
          condition.value = .text (String.ofList text.value) := by
  obtain ⟨level, visits, closes, found⟩ := exists_level reads mem
  obtain ⟨front, behind, divided, path, value⟩ := comparison_of_readCondition found compares
  obtain ⟨symbol, named, divides, _⟩ := divided?_eq_some_iff.1 divided
  have known : IsSymbol symbol := isSymbol_iff.2 ⟨_, named⟩
  obtain ⟨_, occurs, _⟩ := occurs_of_dividedBy? known divides
  -- the comparison was divided at a symbol outside of quotes
  have stands := (occurs_iff.1 occurs).1
  refine ⟨level, symbol, front, behind, visits, named, stands, divided, path, value,
    fun mark s raw quote => ?_⟩
  -- the quotes of the level are closed, so those behind the symbol are, too
  have closed : Quoting.outside.after (Text.trim behind) = .outside := by
    rw [stands.text, ← List.append_assoc, Quoting.after_append, stands.after known] at closes
    exact after_trim closes
  rw [raw] at closed value ⊢
  obtain ⟨text, same⟩ := exists_markedText quote closed
  rw [← same] at value ⊢
  refine ⟨text, rfl, text.closesLast_iff, ?_⟩
  exact Except.ok.inj (value.symm.trans text.readValue_chars)

/-- Two comparisons without a connective between them. -/
def joinlessQuery : String := "a = 'x' b = 'y'"

/-- The second comparison of `joinlessQuery` becomes a part of the text in the first one, whose
quotes do not close at its end only. -/
theorem read_markedValues_joinless :
    read true joinlessQuery = .ok (.condition ⟨"a", .equals, .text "x' b = 'y"⟩) ∧
      ∃ text : MarkedText, "'x' b = 'y'".toList = text.chars ∧ text.rest ≠ [] ∧
        ¬ ClosesLast "'x' b = 'y'".toList ∧ "x' b = 'y" = String.ofList text.value := by
  have text : unwrap joinlessQuery.toList = joinlessQuery.toList := by cbv
  have whole : (cut joinlessQuery.toList).rest = [] := by rfl
  have reads : read true joinlessQuery = .ok (.condition ⟨"a", .equals, .text "x' b = 'y"⟩) := by
    have there : Text.isBlankText joinlessQuery = false := by rfl
    have structured : checkStructure joinlessQuery.toList = .ok () := by rfl
    rw [read, there, if_neg Bool.false_ne_true, readChecked, structured]
    exact readLevel_of_whole text (by decide) whole
  refine ⟨reads, ?_⟩
  obtain ⟨level, symbol, front, behind, visits, _, _, divides, _, _, marked⟩ :=
    read_markedValues reads (List.mem_singleton_self _) ⟨['='], by decide⟩
  -- the query is a level that nothing divides
  have same : level = joinlessQuery.toList := by
    cases visits with
    | here => exact text
    | inside divided => exact absurd (text.symm ▸ whole) divided
  subst same
  have parts : divided? joinlessQuery.toList =
      some (.equals, ['a', ' '], " 'x' b = 'y'".toList) := by rfl
  obtain ⟨_, _, rfl⟩ := Option.some.inj (parts.symm.trans divides)
  obtain ⟨text, chars, closes, value⟩ := marked '\x27' "x' b = 'y'".toList rfl rfl
  have open_ : ¬ ClosesLast "'x' b = 'y'".toList := by
    intro last
    have empty := last.2 "'x'".toList " b = 'y'".toList rfl (List.cons_ne_nil _ _) rfl
    cases empty
  exact ⟨text, chars, fun whole => open_ (closes.2 whole), open_, Literal.text.inj value⟩

end EntitySearch.Query
