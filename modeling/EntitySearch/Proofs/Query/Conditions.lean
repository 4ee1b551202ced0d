import EntitySearch.Proofs.Query.Spelling
import EntitySearch.Proofs.Outcome

/-!
# Reading conditions as they are written

A condition is read by its keywords or, if it has none, by the first comparison symbol in a list of
symbols that occurs in it. Both are found only where they stand outside quotes:

* no symbol of the list is part of a later one (`symbols_longest_first`), so the symbol of a
  condition is the first one that is found (`divided?_symbol`), whatever its value holds;
* the text behind an attribute that begins with a symbol is neither a null check nor a membership
  test (`keywordCondition?_comparison`).

A list of values is split at the commas outside quotes, and of a text in quotes it keeps some
characters only (`splitValues_marks`).

The main statement is `readCondition_spelled`: a condition is read from every text in which it can
be written.
-/

namespace EntitySearch.Query

open Text (AllBlank Tight)

/-! ### Values -/

section Values

variable {s : List Char} {value : Literal}

/-- What is escaped is read as it was. -/
theorem unescape_escape (plain : '\\' ∉ s) : unescape (s.flatMap escape) = s := by
  induction s with
  | nil => rfl
  | cons c s ih =>
    have rest := ih fun mem => plain (List.mem_cons_of_mem c mem)
    -- a backslash in the text itself would be taken for an escape
    have mild : c ≠ '\\' := fun same => plain (same ▸ List.mem_cons_self)
    rw [List.flatMap_cons, escape]
    split
    · next mark =>
      subst mark
      change (if isQuote '\x27' = true then '\x27' :: unescape (s.flatMap escape) else _) = _
      rw [if_pos (by rfl), rest]
    · change unescape (c :: s.flatMap escape) = _
      rw [unescape, rest]
      exact fun _ _ same => absurd same mild

/-- What stands between two marks of one kind is found. -/
theorem quoted?_marks {mark : Char} (quote : isQuote mark = true) (body : List Char) :
    quoted? (mark :: (body ++ [mark])) = some body := by
  have here : quotedBy? mark (mark :: (body ++ [mark])) = some body := by
    have last : (body ++ [mark]).getLast? = some mark := List.getLast?_concat
    rw [quotedBy?, last, List.dropLast_concat, decide_eq_true rfl, beq_self_eq_true, Bool.true_and,
      if_pos rfl]
  rw [quoted?]
  rcases isQuote_iff.1 quote with rfl | rfl
  · rw [here]
  · have other : quotedBy? '\x27' ('\x22' :: (body ++ ['\x22'])) = none := rfl
    rw [other, here]

/-- **A value in quotes is read as the text between them**, without its escapes. -/
theorem readValue_marks {mark : Char} (quote : isQuote mark = true) (body : List Char) :
    readValue (mark :: (body ++ [mark])) = .ok (.text (String.ofList (unescape body))) := by
  rw [readValue, quoted?_marks quote]
  rfl

/-- **A text in quotes is read as the text.** -/
theorem readValue_quote (plain : '\\' ∉ s) :
    readValue (quote s) = .ok (.text (String.ofList s)) := by
  have mark : isQuote '\x27' = true := rfl
  rw [quote, readValue_marks mark, unescape_escape plain]

/-- A text is not in quotes if none of its characters is a mark. -/
theorem quoted?_unmarked (nonempty : s ≠ []) (plain : ∀ c ∈ s, isQuote c = false) :
    quoted? s = none := by
  obtain ⟨c, s, rfl⟩ := List.exists_cons_of_ne_nil nonempty
  have other : ¬(c = '\x27' ∨ c = '\x22') := by
    rw [← isQuote_iff, plain c List.mem_cons_self]
    exact Bool.false_ne_true
  rw [not_or] at other
  rw [quoted?, quotedBy?, decide_eq_false other.1, quotedBy?, decide_eq_false other.2]
  rfl

theorem quoted?_bare (bare : IsBare s) : quoted? s = none :=
  quoted?_unmarked bare.1 fun c mem => isQuote_of_isMild (bare.2 c mem).1

/-- What is equal to a word in any case is not equal to another one. -/
theorem equalsIgnoringCase_trans {keyword other : List Char}
    (same : Text.equalsIgnoringCase s keyword = true) :
    Text.equalsIgnoringCase s other = Text.equalsIgnoringCase keyword other := by
  rw [Text.equalsIgnoringCase, lower_eq same, Text.equalsIgnoringCase]

theorem not_isAlpha_of_isDigit {c : Char} (digit : c.isDigit = true) : c.isAlpha = false := by
  simp only [Char.isDigit, Char.isAlpha, Char.isUpper, Char.isLower, Bool.and_eq_true,
    Bool.or_eq_false_iff, Bool.and_eq_false_iff, decide_eq_true_eq, decide_eq_false_iff_not,
    UInt32.le_iff_toNat_le] at digit ⊢
  have below : c.val.toNat ≤ 57 := digit.2
  have upper : ¬ 65 ≤ c.val.toNat := by omega
  have lower : ¬ 97 ≤ c.val.toNat := by omega
  exact ⟨fun range => upper range.1, Or.inl lower⟩

/-- A text with a character that is no letter is not a word. -/
theorem not_equalsIgnoringCase {keyword : List Char} (letters : IsWord keyword) {c : Char}
    (mem : c ∈ s) (other : c.isAlpha = false) : Text.equalsIgnoringCase s keyword = false := by
  rw [← Bool.not_eq_true]
  intro same
  rw [isAlpha_of_word letters same c mem] at other
  cases other

/-- **An integer is read as it is.** -/
theorem bareValue_integer {n : Int} (fits : Number.isInt64 n = true) :
    bareValue (Number.intText n).toList = .integer n := by
  obtain ⟨c, rest, text⟩ : ∃ c rest, (Number.intText n).toList = c :: rest :=
    List.exists_cons_of_ne_nil (SpellsValue.integer fits).tight.ne_nil
  have mem : c ∈ (Number.intText n).toList := text ▸ List.mem_cons_self
  -- a sign or a digit, so it is none of the words that are tried first
  have other : c.isAlpha = false := by
    rcases mem_intDigits mem with rfl | digit
    · rfl
    · exact not_isAlpha_of_isDigit digit
  have read :
      Number.readInt? Number.minInt64 Number.maxInt64 (Number.intText n).toList = some n := by
    obtain ⟨above, below⟩ := Bool.and_eq_true_iff.1 fits
    rw [Number.intText, String.toList_ofList]
    exact Number.readInt?_intDigits (of_decide_eq_true above) (of_decide_eq_true below)
  rw [bareValue, not_equalsIgnoringCase (by decide +kernel) mem other,
    not_equalsIgnoringCase (by decide +kernel) mem other,
    not_equalsIgnoringCase (by decide +kernel) mem other, read]
  rfl

/-- **A value is read as it is written.** -/
theorem readValue_spelled (spelled : SpellsValue value s) : readValue s = .ok value := by
  rcases spelled.quoted_or_bare with ⟨text, rfl, plain, rfl⟩ | bare
  · rw [readValue_quote plain, String.ofList_toList]
  · -- without marks the value is read by its characters
    have read : readValue s = .ok (bareValue s) := by
      rw [readValue, List.isEmpty_eq_false_iff.2 bare.1, quoted?_bare bare]
      rfl
    rw [read]
    congr 1
    cases spelled with
    | text plain => cases (bare.2 '\x27' List.mem_cons_self).1
    | null word =>
      rw [bareValue, equalsIgnoringCase_trans word, equalsIgnoringCase_trans word, word]
      rfl
    | @bool value _ word =>
      rw [bareValue, equalsIgnoringCase_trans word, equalsIgnoringCase_trans word]
      cases value <;> rfl
    | integer fits => exact bareValue_integer fits

end Values

/-! ### Comparison symbols -/

/-- **No symbol is part of a later one**, so the longer ones are found first. -/
theorem symbols_longest_first :
    symbols.Pairwise fun earlier later => ¬ earlier.1 <:+: later.1 := by
  decide

theorem after?_eq_some_iff {expected s rest : List Char} :
    Text.after? expected s = some rest ↔ s = expected ++ rest := by
  induction expected generalizing s with
  | nil => exact ⟨fun h => Option.some.inj h, fun h => congrArg some h⟩
  | cons e expected ih =>
    cases s with
    | nil => exact ⟨(nomatch ·), (nomatch ·)⟩
    | cons c s =>
      rw [Text.after?, List.cons_append, List.cons.injEq]
      split
      · next same => rw [ih, and_iff_right same.symm]
      · next other => exact ⟨(nomatch ·), fun h => absurd h.1.symm other⟩

section Symbols

variable {symbol : List Char} {operation : Operation}

/-- A text in which a symbol is found nowhere. -/
def Lacks (symbol s : List Char) : Prop :=
  ∀ previous, divideAt? symbol .outside previous s = none

/-- A symbol is not found at a character that it does not begin with. -/
theorem after?_of_not_symbol (known : (symbol, operation) ∈ symbols) {c : Char}
    (other : isSymbolChar c = false) (s : List Char) : Text.after? symbol (c :: s) = none := by
  obtain ⟨nonempty, chars⟩ := symbol_of_known known
  obtain ⟨d, symbol, rfl⟩ := List.exists_cons_of_ne_nil nonempty
  have different : d ≠ c := by
    rintro rfl
    rw [(chars d List.mem_cons_self).1] at other
    cases other
  rw [Text.after?, if_neg different]

/-- **A mild text is passed over** in the search for a symbol. -/
theorem divideAt?_append (known : (symbol, operation) ∈ symbols) {front : List Char}
    (mild : ∀ c ∈ front, isMild c = true) (previous : Option Char) (s : List Char) :
    divideAt? symbol .outside previous (front ++ s) =
      (divideAt? symbol .outside (front.getLast?.or previous) s).map
        fun (before, behind) => (front ++ before, behind) := by
  induction front generalizing previous with
  | nil =>
    change _ = (divideAt? symbol .outside previous s).map id
    rw [Option.map_id_fun, id, List.nil_append]
  | cons c front ih =>
    obtain ⟨first, others⟩ := List.forall_mem_cons.1 mild
    -- a mild character neither opens quotes nor begins a symbol
    have quote := isQuote_of_isMild first
    have last : (c :: front).getLast?.or previous = front.getLast?.or (some c) := by
      rw [List.getLast?_cons]
      cases front.getLast? <;> rfl
    rw [List.cons_append, divideAt?, Quoting.isPlain_outside quote, if_pos rfl,
      after?_of_not_symbol known (isSymbolChar_of_isMild first), Quoting.next_outside quote,
      ih others, last, Option.map_map]
    rfl

theorem Lacks.nil : Lacks symbol [] := fun _ => rfl

theorem Lacks.append_mild (known : (symbol, operation) ∈ symbols) {front s : List Char}
    (mild : ∀ c ∈ front, isMild c = true) (lacks : Lacks symbol s) : Lacks symbol (front ++ s) := by
  intro previous
  rw [divideAt?_append known mild, lacks]
  rfl

/-- Nothing is found at a character that is not plain. -/
theorem divideAt?_loud {state : Quoting} {c : Char} (loud : state.isPlain c = false)
    (previous : Option Char) (s : List Char) :
    divideAt? symbol state previous (c :: s) =
      (divideAt? symbol (state.next c) (some c) s).map
        fun (before, behind) => (c :: before, behind) := by
  rw [divideAt?, loud, if_neg Bool.false_ne_true]

/-- **No symbol is found in quotes.** -/
theorem Lacks.quoted {mark : Char} {body s : List Char} (quote : isQuote mark = true)
    (inside : Inside mark body) (lacks : Lacks symbol s) :
    Lacks symbol (mark :: (body ++ mark :: s)) := by
  -- inside the quotes no place is looked at, and at the closing mark the search goes on behind
  have rest (previous : Option Char) :
      divideAt? symbol (.inside mark) previous (body ++ mark :: s) = none := by
    induction inside generalizing previous with
    | nil =>
      rw [List.nil_append, divideAt?_loud rfl, Quoting.next_mark quote, lacks]
      rfl
    | plain mild other _ ih =>
      rw [List.cons_append, divideAt?_loud rfl, Quoting.next_inside mild other, ih]
      rfl
    | escaped _ ih =>
      rw [List.cons_append, List.cons_append, divideAt?_loud rfl, Quoting.next_backslash,
        divideAt?_loud rfl, Quoting.next_escaped, ih]
      rfl
  intro previous
  rw [divideAt?_loud (Quoting.isPlain_quote quote), Quoting.next_quote quote, rest]
  rfl

/-- A text in which no comparison symbol is found, and which goes on with none. -/
structure Hides (s : List Char) : Prop where
  head : ∀ c ∈ s.head?, isSymbolChar c = false
  lacks : ∀ entry ∈ symbols, Lacks entry.1 s

/-- **A text in quotes** hides the symbols in it. -/
theorem Hides.marks {mark : Char} {body : List Char} (quote : isQuote mark = true)
    (inside : Inside mark body) : Hides (mark :: (body ++ [mark])) where
  head c found := by
    obtain rfl : mark = c := Option.some.inj found
    rcases isQuote_iff.1 quote with rfl | rfl
    · rfl
    · rfl
  lacks _ _ := .quoted quote inside .nil

/-- **A value has no symbol in it**, except in quotes. -/
theorem SpellsValue.hides {value : Literal} {s : List Char} (spelled : SpellsValue value s) :
    Hides s := by
  rcases spelled.quoted_or_bare with ⟨text, _, plain, rfl⟩ | bare
  · exact .marks rfl (inside_escape plain)
  · constructor
    · exact fun c found => isSymbolChar_of_isMild (bare.2 c (List.mem_of_mem_head? found)).1
    · rintro ⟨symbol, operation⟩ known
      rw [← List.append_nil s]
      exact .append_mild known (fun c mem => (bare.2 c mem).1) .nil

/-- **A symbol is not found in another one** that it is no part of, nor across its end. -/
theorem Lacks.append_symbol (known : (symbol, operation) ∈ symbols) {other s : List Char}
    (apart : ¬ symbol <:+: other) (plain : ∀ c ∈ other, isQuote c = false)
    (ends : ∀ c ∈ s.head?, isSymbolChar c = false) (lacks : Lacks symbol s) :
    Lacks symbol (other ++ s) := by
  induction other with
  | nil => exact lacks
  | cons d other ih =>
    obtain ⟨quote, plain⟩ := List.forall_mem_cons.1 plain
    -- the symbol ends within the other one, where it would be a part of it, or behind it
    have missed : Text.after? symbol (d :: (other ++ s)) = none := by
      rw [Option.eq_none_iff_forall_ne_some]
      intro behind found
      have found : (d :: other) ++ s = symbol ++ behind := after?_eq_some_iff.1 found
      rcases List.append_eq_append_iff.1 found with ⟨more, longer, rest⟩ | ⟨more, shorter, _⟩
      · cases more with
        | nil =>
          rw [List.append_nil] at longer
          exact apart (longer ▸ List.infix_rfl)
        | cons e more =>
          have outside := ends e (by rw [rest]; rfl)
          have inside := ((symbol_of_known known).2 e (by rw [longer]; simp)).1
          rw [outside] at inside
          cases inside
      · exact apart (shorter ▸ (List.prefix_append symbol more).isInfix)
    intro previous
    rw [List.cons_append, divideAt?, Quoting.isPlain_outside quote, if_pos rfl, missed,
      Quoting.next_outside quote,
      ih (fun h => apart (h.trans (List.suffix_cons d other).isInfix)) plain]
    rfl

/-- **A symbol is found where it stands**, between a mild character and one that is no part of a
symbol. -/
theorem divideAt?_symbol (known : (symbol, operation) ∈ symbols) {c : Char} (mild : isMild c = true)
    {s : List Char} (ends : ∀ c ∈ s.head?, isSymbolChar c = false) :
    divideAt? symbol .outside (some c) (symbol ++ s) = some ([], s) := by
  obtain ⟨nonempty, chars⟩ := symbol_of_known known
  -- a longer symbol would have one of its characters in front or behind
  have alone : isPartOfLonger symbol (some c) s.head? = false := by
    have before : c ≠ '!' ∧ c ≠ '>' ∧ c ≠ '<' := by
      refine ⟨?_, ?_, ?_⟩
      all_goals
        rintro rfl
        cases mild
    have behind : s.head? ≠ some '=' := fun same => nomatch ends '=' same
    rw [isPartOfLonger.eq_def]
    split
    · simp [before]
    · simp [before]
    · simp [behind]
    · simp [behind]
    · rfl
  -- so the symbol is found at its own first character
  have here : Text.after? symbol (symbol ++ s) = some s := after?_eq_some_iff.2 rfl
  obtain ⟨d, rest, rfl⟩ := List.exists_cons_of_ne_nil nonempty
  have quote := isQuote_of_isOrdinary (chars d List.mem_cons_self).2.1
  rw [List.cons_append] at here ⊢
  rw [divideAt?, Quoting.isPlain_outside quote, if_pos rfl, here]
  dsimp only
  rw [alone, if_neg Bool.false_ne_true]

/-- What stands behind a symbol does not go on with it. -/
theorem head?_behind {behind s : List Char} (blank : AllBlank behind) (hides : Hides s) :
    ∀ c ∈ (behind ++ s).head?, isSymbolChar c = false := by
  intro c found
  cases behind with
  | nil => exact hides.head c found
  | cons d behind =>
    obtain rfl : d = c := Option.some.inj found
    exact isSymbolChar_of_isMild (isMild_of_isBlank (blank d List.mem_cons_self))

section Divided

variable {front behind s : List Char}

/-- A comparison is divided at its symbol. -/
theorem dividedBy?_symbol (known : (symbol, operation) ∈ symbols)
    (mild : ∀ c ∈ front, isMild c = true) (nonempty : front ≠ []) (blank : AllBlank behind)
    (hides : Hides s) :
    dividedBy? symbol (front ++ (symbol ++ (behind ++ s))) = some (front, behind ++ s) := by
  -- what is in front of the symbol ends with a mild character
  have last : front.getLast?.or none = some (front.getLast nonempty) := by
    rw [Option.or_none, List.getLast?_eq_some_getLast nonempty]
  have there : (!front.isEmpty) = true := by
    rw [List.isEmpty_eq_false_iff.2 nonempty]
    rfl
  rw [dividedBy?, divideAt?_append known mild, last,
    divideAt?_symbol known (mild _ (List.getLast_mem nonempty)) (head?_behind blank hides),
    Option.map_some]
  dsimp only
  rw [List.append_nil]
  exact if_pos there

/-- A comparison is divided at no symbol that is not part of its own. -/
theorem dividedBy?_other {other : List Char} {operation' : Operation}
    (known : (symbol, operation) ∈ symbols) (known' : (other, operation') ∈ symbols)
    (apart : ¬ other <:+: symbol) (mild : ∀ c ∈ front, isMild c = true) (blank : AllBlank behind)
    (hides : Hides s) :
    dividedBy? other (front ++ (symbol ++ (behind ++ s))) = none := by
  have plain : ∀ c ∈ symbol, isQuote c = false := fun c mem =>
    isQuote_of_isOrdinary ((symbol_of_known known).2 c mem).2.1
  have lacks : Lacks other (behind ++ s) :=
    .append_mild known' (fun c mem => isMild_of_isBlank (blank c mem)) (hides.lacks _ known')
  have missed : Lacks other (symbol ++ (behind ++ s)) :=
    lacks.append_symbol known' apart plain (head?_behind blank hides)
  rw [dividedBy?, divideAt?_append known' mild, missed]
  rfl

/-- **The symbol of a comparison** is the first one in the list of symbols that is found. -/
theorem divided?_symbol (known : (symbol, operation) ∈ symbols)
    (mild : ∀ c ∈ front, isMild c = true) (nonempty : front ≠ []) (blank : AllBlank behind)
    (hides : Hides s) :
    divided? (front ++ (symbol ++ (behind ++ s))) = some (operation, front, behind ++ s) := by
  obtain ⟨earlier, later, split⟩ := List.append_of_mem known
  -- the symbols that are tried earlier are no parts of this one
  have missed : earlier.findSome? (fun entry => (dividedBy? entry.1
      (front ++ (symbol ++ (behind ++ s)))).map fun parts => (entry.2, parts.1, parts.2)) = none := by
    rw [List.findSome?_eq_none_iff]
    rintro ⟨other, operation'⟩ mem
    have known' : (other, operation') ∈ symbols := split ▸ List.mem_append_left _ mem
    have apart : ¬ other <:+: symbol := by
      have order := symbols_longest_first
      rw [split, List.pairwise_append] at order
      exact order.2.2 _ mem _ List.mem_cons_self
    rw [dividedBy?_other known known' apart mild blank hides]
    rfl
  -- the search goes past the earlier ones and stops at this one
  rw [divided?, split, List.findSome?_append, missed, Option.none_or, List.findSome?_cons]
  dsimp only
  rw [dividedBy?_symbol known mild nonempty blank hides]
  rfl

end Divided

end Symbols

/-! ### Lists of values -/

section Lists

theorem foldr_growFirst (s text : List Char) (rest : List (List Char)) :
    s.foldr growFirst (text :: rest) = (s ++ text) :: rest := by
  induction s with
  | nil => rfl
  | cons c s ih => rw [List.foldr_cons, ih]; rfl

/-- Characters outside quotes belong to the value. -/
theorem splitValues_outside {s : List Char} (plain : ∀ c ∈ s, isQuote c = false ∧ c ≠ ',')
    (rest : List Char) :
    splitValues .outside (s ++ rest) = s.foldr growFirst (splitValues .outside rest) := by
  induction s with
  | nil => rfl
  | cons c s ih =>
    obtain ⟨⟨quote, other⟩, plain⟩ := List.forall_mem_cons.1 plain
    have delimiter : isDelimiter .outside c = false := quote
    rw [List.cons_append, splitValues, Quoting.isPlain_outside quote, decide_eq_false other,
      delimiter, Quoting.next_outside quote, ih plain]
    rfl

/-- What a list keeps of the text between two quotation marks: the character behind each backslash
that escapes, whatever it is, and of the other characters those that are no quotation marks. -/
def unmask : List Char → List Char
  | '\\' :: c :: rest => c :: unmask rest
  | c :: rest => if isQuote c then unmask rest else c :: unmask rest
  | [] => []

theorem unmask_cons {c : Char} (mild : c ≠ '\\') (s : List Char) :
    unmask (c :: s) = if isQuote c then unmask s else c :: unmask s := by
  rw [unmask]
  exact fun _ _ same => absurd same mild

/-- All of a text is kept that has neither quotation marks nor backslashes. -/
theorem unmask_item {s : List Char} (valid : IsItem s) : unmask s = s := by
  have plain := valid.plain
  clear valid
  induction s with
  | nil => rfl
  | cons c s ih =>
    obtain ⟨⟨other, mild⟩, plain⟩ := List.forall_mem_cons.1 plain
    rw [unmask_cons mild, other, if_neg Bool.false_ne_true, ih plain]

/-- A delimiter that is not plain belongs to no value. -/
theorem splitValues_delimiter {state : Quoting} {c : Char} (loud : state.isPlain c = false)
    (delimiter : isDelimiter state c = true) (rest : List Char) :
    splitValues state (c :: rest) = splitValues (state.next c) rest := by
  rw [splitValues, loud, delimiter]
  rfl

/-- Every other character in quotes belongs to the first value. -/
theorem splitValues_kept {state : Quoting} {c : Char} (loud : state.isPlain c = false)
    (kept : isDelimiter state c = false) (rest : List Char) :
    splitValues state (c :: rest) = growFirst c (splitValues (state.next c) rest) := by
  rw [splitValues, loud, kept]
  rfl

/-- **A text in quotes** is split off as what is kept of it. -/
theorem splitValues_marks {mark : Char} {body : List Char} (quote : isQuote mark = true)
    (inside : Inside mark body) (rest : List Char) :
    splitValues .outside (mark :: (body ++ mark :: rest)) =
      (unmask body).foldr growFirst (splitValues .outside rest) := by
  -- the opening mark is left out
  have opens : splitValues .outside (mark :: (body ++ mark :: rest)) =
      splitValues (.inside mark) (body ++ mark :: rest) := by
    rw [splitValues_delimiter (Quoting.isPlain_quote quote) quote, Quoting.next_quote quote]
  rw [opens]
  clear opens
  induction inside with
  | nil =>
    -- so is the closing one, and behind it the rest is split
    have closes : isDelimiter (.inside mark) mark = true := by
      rw [isDelimiter, quote, Bool.true_or]
    rw [List.nil_append, splitValues_delimiter rfl closes, Quoting.next_mark quote]
    rfl
  | @plain c s mild other _ ih =>
    have delimiter : isDelimiter (.inside mark) c = isQuote c := by
      rw [isDelimiter, decide_eq_false mild, Bool.or_false]
    rw [List.cons_append, unmask_cons mild]
    -- a mark of the other kind is left out like a delimiter
    cases loud : isQuote c with
    | true =>
      rw [splitValues_delimiter rfl (delimiter.trans loud), Quoting.next_inside mild other, ih,
        if_pos rfl]
    | false =>
      rw [splitValues_kept rfl (delimiter.trans loud), Quoting.next_inside mild other, ih,
        if_neg Bool.false_ne_true, List.foldr_cons]
  | @escaped c s _ ih =>
    -- a backslash is left out, and the character behind it kept whatever it is
    have escapes : isDelimiter (.inside mark) '\\' = true := by
      rw [isDelimiter, decide_eq_true rfl, Bool.or_true]
    rw [List.cons_append, List.cons_append, splitValues_delimiter rfl escapes,
      Quoting.next_backslash, splitValues_kept rfl rfl, Quoting.next_escaped, ih]
    rfl

theorem isQuote_of_isBlank {c : Char} (blank : Text.isBlank c = true) :
    isQuote c = false ∧ c ≠ ',' := by
  refine ⟨isQuote_of_isMild (isMild_of_isBlank blank), ?_⟩
  rintro rfl
  cases blank

/-- **A value of a list** with the blanks around it, but without its quotes. -/
theorem splitValues_item {item : String} {s : List Char} (spelled : SpellsItem item s) :
    ∃ text, Text.trim text = item.toList ∧ ∀ rest,
      splitValues .outside (s ++ rest) = text.foldr growFirst (splitValues .outside rest) := by
  obtain ⟨valid, quote, blank, blank'⟩ := spelled
  rename_i before behind mark
  -- the text is the value with its blanks, and the scanner goes from one mark to the other
  refine ⟨before ++ (item.toList ++ behind), ?_, fun rest => ?_⟩
  · exact (Tight.of_trim valid.trimmed valid.nonempty).trim_append blank blank'
  · rw [List.append_assoc, List.cons_append, List.append_assoc, List.cons_append,
      splitValues_outside (fun c mem => isQuote_of_isBlank (blank c mem)),
      splitValues_marks quote (inside_item valid quote), unmask_item valid,
      splitValues_outside (fun c mem => isQuote_of_isBlank (blank' c mem)), List.foldr_append,
      List.foldr_append]

/-- A written list of values is split into the texts of its values. -/
theorem SpellsItems.exists_texts {items : List Literal} {s : List Char}
    (spelled : SpellsItems items s) :
    ∃ texts : List String, texts ≠ [] ∧ (∀ text ∈ texts, text.toList ≠ []) ∧
      items = texts.map Literal.text ∧
        (splitValues .outside s).map Text.trim = texts.map String.toList := by
  induction spelled with
  | @one item s first =>
    -- the last value is followed by nothing
    obtain ⟨text, trimmed, split⟩ := splitValues_item first
    obtain ⟨valid⟩ := first
    refine ⟨[item], List.cons_ne_nil _ _, List.forall_mem_singleton.2 valid.nonempty, rfl, ?_⟩
    have whole := split []
    rw [List.append_nil, splitValues, foldr_growFirst, List.append_nil] at whole
    rw [whole, List.map_singleton, trimmed, List.map_singleton]
  | @more item items s rest first _ ih =>
    obtain ⟨text, trimmed, split⟩ := splitValues_item first
    obtain ⟨valid⟩ := first
    obtain ⟨texts, _, nonempty, rfl, others⟩ := ih
    refine ⟨item :: texts, List.cons_ne_nil _ _, List.forall_mem_cons.2 ⟨valid.nonempty, nonempty⟩,
      rfl, ?_⟩
    -- behind every other value a comma begins the next one
    have comma : splitValues .outside (',' :: rest) = [] :: splitValues .outside rest := rfl
    rw [split, comma, foldr_growFirst, List.append_nil, List.map_cons, trimmed, others,
      List.map_cons]

/-- **A list of values is read as it is written.** -/
theorem readValues_spelled {items : List Literal} {s : List Char} (spelled : SpellsItems items s) :
    readValues s = .ok items := by
  obtain ⟨texts, some, nonempty, rfl, split⟩ := spelled.exists_texts
  -- no value is empty, so none is left out
  have kept : (texts.map String.toList).filter (fun text => !text.isEmpty) =
      texts.map String.toList := by
    refine List.filter_eq_self.2 (List.forall_mem_map.2 fun text mem => ?_)
    rw [List.isEmpty_eq_false_iff.2 (nonempty text mem)]
    rfl
  have there : (texts.map String.toList).isEmpty = false := by
    rw [List.isEmpty_eq_false_iff]
    exact mt List.map_eq_nil_iff.1 some
  rw [readValues, split, kept, there, if_neg Bool.false_ne_true, List.map_map]
  refine congrArg Except.ok (List.map_congr_left fun text _ => ?_)
  exact congrArg Literal.text String.ofList_toList

end Lists

/-! ### Keywords -/

section Keywords

variable {keywords : List String} {operation : Operation} {path s : List Char}

/-- **The attribute of a condition** is what stands in front of the first other character. -/
theorem span_path (named : IsPath path) (ends : ∀ c ∈ s.head?, isAttributeChar c = false) :
    (path ++ s).takeWhile isAttributeChar = path ∧ (path ++ s).dropWhile isAttributeChar = s := by
  rw [List.takeWhile_append_of_pos named.plain, List.dropWhile_append_of_pos named.plain]
  cases s with
  | nil => exact ⟨List.append_nil path, rfl⟩
  | cons c s =>
    have other := Bool.eq_false_iff.1 (ends c rfl)
    rw [List.takeWhile_cons_of_neg other, List.dropWhile_cons_of_neg other, List.append_nil]
    exact ⟨rfl, rfl⟩

/-- A text that does not begin with the word for being is no null check. -/
theorem nullCheck?_other {word : List Char} {rest : List (List Char)}
    (other : Text.lower word ≠ "is".toList) : nullCheck? (word :: rest) = none := by
  rw [nullCheck?, List.map_cons]
  split
  · next same =>
    obtain ⟨rfl, _⟩ := List.cons.inj same
    rw [decide_eq_false other, Bool.false_and, if_neg Bool.false_ne_true]
  · next same =>
    obtain ⟨rfl, _⟩ := List.cons.inj same
    rw [decide_eq_false other, Bool.false_and, Bool.false_and, if_neg Bool.false_ne_true]
  · rfl

/-- A text that may stand behind a keyword: it begins with a blank or a parenthesis. -/
def EndsKeyword (s : List Char) : Prop :=
  s.head?.any (fun c => Text.isBlank c || c = '(') = true

theorem EndsKeyword.of_blank (gap : s.head?.any Text.isBlank = true) : EndsKeyword s := by
  cases s with
  | nil => cases gap
  | cons c s =>
    have blank : Text.isBlank c = true := gap
    change (Text.isBlank c || _) = true
    rw [blank, Bool.true_or]

theorem EndsKeyword.parenthesis {gap : List Char} (blank : AllBlank gap) (s : List Char) :
    EndsKeyword (gap ++ '(' :: s) := by
  cases gap with
  | nil => rfl
  | cons c gap => exact .of_blank (blank c List.mem_cons_self)

/-- **A keyword** is read off a text that begins with it, when a blank or a parenthesis follows. -/
theorem afterKeyword?_word {keyword word : List Char}
    (same : Text.equalsIgnoringCase word keyword = true) (ends : EndsKeyword s) :
    afterKeyword? keyword (word ++ s) = some s := by
  have length : keyword.length = word.length := by
    have lengths := congrArg List.length (lower_eq same)
    rw [Text.lower, List.length_map, Text.lower, List.length_map] at lengths
    exact lengths.symm
  rw [EndsKeyword] at ends
  rw [afterKeyword?, length, List.take_left, List.drop_left, same, ends]
  rfl

/-- A text with another first character does not begin with a keyword. -/
theorem afterKeyword?_other {k c : Char} {keyword : List Char} (other : c.toLower ≠ k.toLower) :
    afterKeyword? (k :: keyword) (c :: s) = none := by
  have different :
      Text.equalsIgnoringCase ((c :: s).take (k :: keyword).length) (k :: keyword) = false := by
    rw [List.length_cons, List.take_succ_cons, Text.equalsIgnoringCase, Text.lower, Text.lower,
      List.map_cons, List.map_cons, beq_eq_false_iff_ne]
    exact fun same => other (List.cons.inj same).1
  rw [afterKeyword?, different]
  rfl

/-- **The words of keywords** are the keywords, up to their case. -/
theorem words_spelled (spelled : SpellsWords keywords s)
    (letters : ∀ keyword ∈ keywords, IsWord keyword.toList) :
    (Text.words s).map Text.lower = keywords.map fun keyword => Text.lower keyword.toList := by
  induction spelled with
  | nil => rfl
  | @cons keyword keywords gap word rest blank apart same others ih =>
    obtain ⟨first, letters⟩ := List.forall_mem_cons.1 letters
    -- a keyword ends with the text or in front of the next blank
    have ends : ∀ c, rest.head? = some c → Text.isBlank c = true := by
      intro c found
      cases others with
      | nil => cases found
      | cons blank' apart' same' others' =>
        have head := (SpellsWords.cons blank' apart' same' others').head (List.cons_ne_nil _ _)
        rwa [found] at head
    rw [Text.words_append_blank blank,
      Text.words_append_word (noBlank_of_attribute (attribute_of_word first same))
        (ne_nil_of_word first same) ends,
      List.map_cons, List.map_cons, lower_eq same, ih letters]

/-- Behind an attribute there is no other character of an attribute where there is a blank. -/
theorem head?_of_blank (gap : s.head?.any Text.isBlank = true) :
    ∀ c ∈ s.head?, isAttributeChar c = false := by
  intro c found
  rw [Option.mem_def.1 found] at gap
  rw [← Bool.not_eq_true]
  intro plain
  have other := isBlank_of_isAttributeChar plain
  rw [Option.any_some, other] at gap
  cases gap

/-- **A null check is read by its words.** -/
theorem keywordCondition?_nullCheck (named : IsPath path)
    (known : (keywords, operation) ∈ nullChecks) (spelled : SpellsWords keywords s) :
    keywordCondition? (path ++ s) = .ok (some ⟨String.ofList path, operation, .null⟩) := by
  obtain ⟨nonempty, letters⟩ := isWord_of_keyword (List.mem_append_left _ known)
  have gap := spelled.head nonempty
  obtain ⟨front, back⟩ := span_path named (head?_of_blank gap)
  -- the words decide, however they are spelled and spaced
  have null : nullCheck? (Text.words s) = some operation := by
    rw [nullCheck?, words_spelled spelled letters]
    simp only [nullChecks, List.mem_cons, Prod.mk.injEq, List.not_mem_nil, or_false] at known
    rcases known with ⟨rfl, rfl⟩ | ⟨rfl, rfl⟩
    · rfl
    · rfl
  rw [keywordCondition?, front, back, List.isEmpty_eq_false_iff.2 named.nonempty, gap, null]
  rfl

/-- A text whose first word is not the one for being is no null check. -/
theorem nullCheck?_of_word {gap word rest : List Char} (blank : AllBlank gap)
    (plain : Text.NoBlank word) (nonempty : word ≠ [])
    (other : ∀ more, Text.lower word ++ more ≠ "is".toList) :
    nullCheck? (Text.words (gap ++ (word ++ rest))) = none := by
  obtain ⟨more, others, first⟩ := Text.exists_words_append plain nonempty rest
  rw [Text.words_append_blank blank, first]
  refine nullCheck?_other ?_
  rw [Text.lower, List.map_append]
  exact other _

/-- No comparison symbol begins like one of the keywords. -/
theorem toLower_of_known {symbol : List Char} (known : (symbol, operation) ∈ symbols) :
    ∀ c ∈ symbol, c.toLower ≠ 'i' ∧ c.toLower ≠ 'n' := by
  have all : ∀ entry ∈ symbols,
      entry.1.all (fun c => c.toLower != 'i' && c.toLower != 'n') = true := by
    decide
  simpa using all _ known

/-- What begins with a comparison symbol is neither a null check nor a membership test. -/
theorem not_keywords_of_known {symbol before : List Char}
    (known : (symbol, operation) ∈ symbols) (blank : AllBlank before) (rest : List Char) :
    nullCheck? (Text.words (before ++ (symbol ++ rest))) = none ∧
      membership? (Text.trimStart (before ++ (symbol ++ rest))) = none := by
  obtain ⟨nonempty, chars⟩ := symbol_of_known known
  have plain : Text.NoBlank symbol := fun c mem => (chars c mem).2.2.2
  obtain ⟨d, more, rfl⟩ := List.exists_cons_of_ne_nil nonempty
  obtain ⟨notI, notN⟩ := toLower_of_known known d List.mem_cons_self
  constructor
  · -- the first word is not `is`, for no symbol starts with that letter
    refine nullCheck?_of_word blank plain nonempty fun after same => notI ?_
    exact (List.cons.inj same).1
  · have noNot : afterKeyword? "not".toList (d :: more ++ rest) = none := by
      change afterKeyword? ('n' :: _) _ = none
      exact afterKeyword?_other notN
    have noIn : afterKeyword? "in".toList (d :: more ++ rest) = none := by
      change afterKeyword? ('i' :: _) _ = none
      exact afterKeyword?_other notI
    rw [Text.trimStart, Text.dropWhile_isBlank blank ((plain.starts nonempty).append rest),
      membership?, noNot, noIn]
    rfl

/-- **A comparison has no keywords.** -/
theorem keywordCondition?_comparison {symbol before rest : List Char} (named : IsPath path)
    (known : (symbol, operation) ∈ symbols) (blank : AllBlank before) :
    keywordCondition? (path ++ (before ++ (symbol ++ rest))) = .ok none := by
  -- the path ends in front of a blank or of the symbol itself
  have ends : ∀ c ∈ (before ++ (symbol ++ rest)).head?, isAttributeChar c = false := by
    cases before with
    | nil =>
      obtain ⟨nonempty, chars⟩ := symbol_of_known known
      obtain ⟨d, more, rfl⟩ := List.exists_cons_of_ne_nil nonempty
      intro c found
      obtain rfl : d = c := Option.some.inj found
      exact (chars d List.mem_cons_self).2.2.1
    | cons e before =>
      refine head?_of_blank ?_
      exact blank e List.mem_cons_self
  obtain ⟨front, back⟩ := span_path named ends
  obtain ⟨null, member⟩ := not_keywords_of_known known blank rest
  rw [keywordCondition?, front, back]
  split
  · rfl
  · rw [null]
    dsimp only
    rw [member]

/-- The membership test of a keyword in front of a blank or a parenthesis. -/
theorem membership?_in {word : List Char} (same : Text.equalsIgnoringCase word "in".toList = true)
    (ends : EndsKeyword s) : membership? (word ++ s) = some (.oneOf, s) := by
  -- the two keywords begin with different letters
  have other : afterKeyword? "not".toList (word ++ s) = none := by
    cases word with
    | nil => cases same
    | cons c word =>
      have first : c.toLower = 'i' := (List.cons.inj (lower_eq same)).1
      change afterKeyword? ('n' :: _) _ = none
      refine afterKeyword?_other ?_
      rw [first]
      decide
  rw [membership?, other, afterKeyword?_word same ends]
  rfl

theorem membership?_notIn {word gap word' : List Char}
    (same : Text.equalsIgnoringCase word "not".toList = true) (blank : AllBlank gap)
    (apart : gap ≠ []) (same' : Text.equalsIgnoringCase word' "in".toList = true)
    (ends : EndsKeyword s) :
    membership? (word ++ (gap ++ (word' ++ s))) = some (.noneOf, s) := by
  have behind : EndsKeyword (gap ++ (word' ++ s)) := by
    obtain ⟨c, gap, rfl⟩ := List.exists_cons_of_ne_nil apart
    exact .of_blank (blank c List.mem_cons_self)
  have starts : Text.Starts (word' ++ s) :=
    (tight_of_word (by decide +kernel) same').head.append s
  rw [membership?, afterKeyword?_word same behind]
  dsimp only
  rw [Text.trimStart, Text.dropWhile_isBlank blank starts, afterKeyword?_word same' ends]
  rfl

/-- A keyword behind blanks, other than the one for being, makes no null check, and taking the
blanks off leaves it in front. -/
theorem keyword_behind {keyword gap word : List Char} (letters : IsWord keyword)
    (same : Text.equalsIgnoringCase word keyword = true) (blank : AllBlank gap)
    (other : ∀ more, Text.lower keyword ++ more ≠ "is".toList) (rest : List Char) :
    nullCheck? (Text.words (gap ++ (word ++ rest))) = none ∧
      Text.trimStart (gap ++ (word ++ rest)) = word ++ rest := by
  have tight := tight_of_word letters same
  have plain := noBlank_of_attribute (attribute_of_word letters same)
  constructor
  · refine nullCheck?_of_word blank plain tight.ne_nil fun more => ?_
    rw [lower_eq same]
    exact other more
  · exact Text.dropWhile_isBlank blank (tight.head.append rest)

/-- **The keywords of a membership test** are read off the text behind the attribute, and they are
no null check. -/
theorem membership?_spelled {words : List Char} (known : (keywords, operation) ∈ memberships)
    (spelled : SpellsWords keywords words) (ends : EndsKeyword s) :
    nullCheck? (Text.words (words ++ s)) = none ∧
      membership? (Text.trimStart (words ++ s)) = some (operation, s) := by
  simp only [memberships, List.mem_cons, Prod.mk.injEq, List.not_mem_nil, or_false] at known
  rcases known with ⟨rfl, rfl⟩ | ⟨rfl, rfl⟩
  · cases spelled with
    | @cons _ _ gap word rest blank apart same others =>
      cases others
      -- the first keyword is not that of null checks
      have other (more : List Char) : Text.lower "in".toList ++ more ≠ "is".toList :=
        fun same => nomatch (List.cons.inj (List.cons.inj same).2).1
      obtain ⟨null, front⟩ := keyword_behind (by decide +kernel) same blank other s
      rw [List.append_nil, List.append_assoc, front]
      exact ⟨null, membership?_in same ends⟩
  · cases spelled with
    | @cons _ _ gap word rest blank apart same others =>
      cases others with
      | @cons _ _ gap' word' rest' blank' apart' same' others' =>
        cases others'
        have other (more : List Char) : Text.lower "not".toList ++ more ≠ "is".toList :=
          fun same => nomatch (List.cons.inj same).1
        obtain ⟨null, front⟩ :=
          keyword_behind (by decide +kernel) same blank other (gap' ++ (word' ++ s))
        rw [List.append_nil, List.append_assoc, List.append_assoc, List.append_assoc, front]
        exact ⟨null, membership?_notIn same blank' apart' same' ends⟩

/-- What stands between parentheses is read out of them. -/
theorem inParentheses?_parentheses (s : List Char) :
    inParentheses? ('(' :: (s ++ [')'])) = some s := by
  rw [inParentheses?, if_pos rfl, Text.before?, List.reverse_append]
  change (if ')' = ')' then some s.reverse.reverse else none) = some s
  rw [if_pos rfl, List.reverse_reverse]

/-- **A membership test is read by its keywords**, with the values of the list that stands between
parentheses. -/
theorem keywordCondition?_membership {words gap : List Char} (named : IsPath path)
    (known : (keywords, operation) ∈ memberships) (spelled : SpellsWords keywords words)
    (blank : AllBlank gap) (s : List Char) :
    keywordCondition? (path ++ (words ++ (gap ++ '(' :: (s ++ [')'])))) =
      (readValues s).map fun items => some ⟨String.ofList path, operation, .list items⟩ := by
  obtain ⟨nonempty, _⟩ := isWord_of_keyword (List.mem_append_right _ known)
  obtain ⟨null, member⟩ := membership?_spelled known spelled (.parenthesis blank (s ++ [')']))
  -- the keywords are apart from the path by a blank
  have begins : (words ++ (gap ++ '(' :: (s ++ [')']))).head?.any Text.isBlank = true := by
    have head := spelled.head nonempty
    rw [List.head?_append]
    cases found : words.head? with
    | none =>
      rw [found] at head
      cases head
    | some c => rwa [found] at head
  obtain ⟨front, back⟩ := span_path named (head?_of_blank begins)
  -- behind the keywords stands the list in its parentheses
  have trimmed : Text.trim (gap ++ '(' :: (s ++ [')'])) = '(' :: (s ++ [')']) :=
    (Text.trim_append_blank blank _).trans (tight_parentheses s).trim_self
  rw [keywordCondition?, front, back, List.isEmpty_eq_false_iff.2 named.nonempty, begins, null,
    member]
  dsimp only
  rw [trimmed, inParentheses?_parentheses]
  dsimp only
  cases readValues s <;> rfl

end Keywords

/-! ### Conditions -/

section Conditions

variable {path s : List Char} {operation : Operation}

/-- **A membership test** is read as the values of its list. -/
theorem readCondition_membership {keywords : List String} {words gap : List Char}
    (named : IsPath path) (known : (keywords, operation) ∈ memberships)
    (spelled : SpellsWords keywords words) (blank : AllBlank gap) (s : List Char) :
    readCondition (path ++ (words ++ (gap ++ '(' :: (s ++ [')'])))) =
      (readValues s).map fun items => ⟨String.ofList path, operation, .list items⟩ := by
  rw [readCondition, keywordCondition?_membership named known spelled blank]
  cases readValues s <;> rfl

/-- **A comparison** is read as the value behind its symbol. -/
theorem readCondition_comparison {symbol before behind : List Char} {value : Literal}
    (named : IsPath path) (known : (symbol, operation) ∈ symbols) (blank : AllBlank before)
    (blank' : AllBlank behind) (hides : Hides s) (tight : Tight s)
    (read : readValue s = .ok value) :
    readCondition (path ++ (before ++ (symbol ++ (behind ++ s)))) =
      .ok ⟨String.ofList path, operation, value⟩ := by
  -- in front of the symbol no character could be part of one
  have mild : ∀ c ∈ path ++ before, isMild c = true := by
    intro c mem
    rcases List.mem_append.1 mem with mem | mem
    · exact isMild_of_isAttributeChar (named.plain c mem)
    · exact isMild_of_isBlank (blank c mem)
  have nonempty : path ++ before ≠ [] := mt (List.append_eq_nil_iff.1 · |>.1) named.nonempty
  have divided : divided? (path ++ (before ++ (symbol ++ (behind ++ s)))) =
      some (operation, path ++ before, behind ++ s) := by
    rw [← List.append_assoc]
    exact divided?_symbol known mild nonempty blank' hides
  have front : Text.trim (path ++ before) = path :=
    named.tight.trim_append Text.allBlank_nil blank
  have back : Text.trim (behind ++ s) = s :=
    (Text.trim_append_blank blank' s).trans tight.trim_self
  rw [readCondition, keywordCondition?_comparison named known blank]
  dsimp only
  rw [symbolCondition, divided]
  dsimp only
  rw [back, read, front]

end Conditions

/-- **A condition is read from every text in which it can be written.** -/
theorem readCondition_spelled {condition : Condition} {s : List Char}
    (spelled : SpellsCondition condition s) : readCondition s = .ok condition := by
  cases spelled with
  | nullCheck named known words =>
    rw [readCondition, keywordCondition?_nullCheck named known words, String.ofList_toList]
  | membership named known words blank listed =>
    rw [readCondition_membership named known words blank, readValues_spelled listed,
      String.ofList_toList]
    rfl
  | comparison named known value blank blank' =>
    rw [readCondition_comparison named known blank blank' value.hides value.tight
      (readValue_spelled value), String.ofList_toList]

end EntitySearch.Query
