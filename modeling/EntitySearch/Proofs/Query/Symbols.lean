import EntitySearch.Proofs.Query.Levels

/-!
# Where a condition is divided

A comparison is divided at a symbol. One would expect that to be the leftmost one in the text
(`IsLeftmost`): the first that stands outside quotes, and the longest that begins there. But the
symbols are looked for one after the other in the whole text, the longer ones first, and one at the
start of the text is passed over. So a symbol in the value wins over one in front of it that is
looked for later: `a = x!=y` is divided at `!=`, and its attribute is `a = x`.

A search finds the first place at which the symbol is no part of a longer one
(`divideAt?_isFirst`). With this

* no symbol that begins inside the leftmost one is found there (`IsLeftmost.eq_or_behind`);
* the condition is divided at the leftmost symbol if that is not at the start and no symbol that is
  looked for earlier stands behind it (`IsLeftmost.divided?_eq`), and otherwise at another one, so
  that the leftmost one becomes a part of the attribute (`IsLeftmost.eq_iff_plain`).
-/

namespace EntitySearch.Query

/-! ### Quoting in front of a place -/

namespace Quoting

/-- A state whose mark is a quotation mark. -/
def Marked : Quoting → Prop
  | outside => True
  | inside mark | escaped mark => isQuote mark = true

theorem Marked.next {state : Quoting} (marked : state.Marked) (c : Char) :
    (state.next c).Marked := by
  cases state with
  | outside =>
    by_cases quote : isQuote c = true
    · rw [next_quote quote]
      exact quote
    · rw [next_outside (Bool.eq_false_iff.2 quote)]
      exact marked
  | inside mark =>
    rw [Quoting.next]
    split
    · exact marked
    · split
      · -- an escape keeps no mark of its own to be checked
        trivial
      · exact marked
  | escaped mark => exact marked

variable {s t : List Char} {c : Char} {state : Quoting}

theorem after_append : state.after (s ++ t) = (state.after s).after t := List.foldl_append

theorem Marked.after (marked : state.Marked) (s : List Char) : (state.after s).Marked := by
  induction s generalizing state with
  | nil => exact marked
  | cons c s ih => exact ih (marked.next c)

/-- Without quotation marks one stays outside quotes. -/
theorem after_outside (plain : ∀ c ∈ s, isQuote c = false) : outside.after s = outside := by
  induction s with
  | nil => rfl
  | cons c s ih =>
    obtain ⟨first, plain⟩ := List.forall_mem_cons.1 plain
    rw [after, List.foldl_cons, next_outside first]
    exact ih plain

/-- A character that is no quotation mark does not end quotes. -/
theorem after_of_concat (plain : isQuote c = false) (behind : outside.after (s ++ [c]) = outside) :
    outside.after s = outside := by
  have start : outside.Marked := trivial
  have marked := start.after s
  rw [after_append] at behind
  cases here : outside.after s with
  | outside => rfl
  | inside mark =>
    -- only its mark ends quotes, and a mark is a quotation mark
    rw [here] at behind marked
    have different : c ≠ mark := by
      rintro rfl
      rw [Marked, plain] at marked
      cases marked
    simp only [after, List.foldl_cons, List.foldl_nil, next, if_neg different] at behind
    split at behind <;> cases behind
  | escaped mark =>
    -- what follows an escape is inside the quotes still
    rw [here] at behind
    cases behind

end Quoting

/-! ### Where symbols stand -/

/-- One of the comparison symbols. -/
def IsSymbol (symbol : List Char) : Prop := symbol ∈ symbols.map Prod.fst

instance (symbol : List Char) : Decidable (IsSymbol symbol) :=
  inferInstanceAs (Decidable (symbol ∈ symbols.map Prod.fst))

/-- **The place of a symbol** in the order in which the symbols are looked for. -/
def precedence (symbol : List Char) : Nat := (symbols.map Prod.fst).idxOf symbol

/-- **A symbol stands** between two parts of a text, outside quotes. -/
structure Stands (symbol front behind s : List Char) : Prop where
  text : s = front ++ (symbol ++ behind)
  outside : Quoting.outside.after front = .outside

/-- A text with a symbol outside quotes. -/
def Contains (symbol s : List Char) : Prop := ∃ front behind, Stands symbol front behind s

/-- **The leftmost symbol of a text**: no symbol begins in front of it, and no longer one begins
where it does. -/
structure IsLeftmost (symbol front behind s : List Char) : Prop where
  known : IsSymbol symbol
  stands : Stands symbol front behind s
  first : ∀ {other front' behind'}, IsSymbol other → Stands other front' behind' s →
    front.length ≤ front'.length
  longest : ∀ {other behind'}, IsSymbol other → Stands other front behind' s →
    other.length ≤ symbol.length

section Known

variable {symbol other : List Char}

theorem isSymbol_iff : IsSymbol symbol ↔ ∃ operation, (symbol, operation) ∈ symbols := by
  simp [IsSymbol]

theorem IsSymbol.ne_nil (known : IsSymbol symbol) : symbol ≠ [] :=
  (symbol_of_known (isSymbol_iff.1 known).choose_spec).1

theorem IsSymbol.isSymbolChar (known : IsSymbol symbol) :
    ∀ c ∈ symbol, isSymbolChar c = true := fun c mem =>
  ((symbol_of_known (isSymbol_iff.1 known).choose_spec).2 c mem).1

/-- The characters of a symbol are no quotation marks and no white space. -/
theorem IsSymbol.chars (known : IsSymbol symbol) :
    ∀ c ∈ symbol, isQuote c = false ∧ Text.isBlank c = false := by
  intro c mem
  have chars := (symbol_of_known (isSymbol_iff.1 known).choose_spec).2 c mem
  exact ⟨isQuote_of_isOrdinary chars.2.1, chars.2.2.2⟩

/-- **Symbols have one character or two**, and the second one alone is a symbol. -/
theorem IsSymbol.shape (known : IsSymbol symbol) :
    (∃ c, symbol = [c]) ∨ ∃ c d, symbol = [c, d] ∧ IsSymbol [d] ∧
      ∀ other, IsSymbol other → other.head? = some d → other = [d] := by
  have all : ∀ symbol ∈ symbols.map Prod.fst, symbol.length = 1 ∨ symbol.length = 2 ∧
      IsSymbol (symbol.drop 1) ∧ ∀ other ∈ symbols.map Prod.fst,
        other.head? = (symbol.drop 1).head? → other = symbol.drop 1 := by
    decide
  rcases all symbol known with one | ⟨two, second⟩
  · exact Or.inl (List.length_eq_one_iff.1 one)
  · obtain ⟨c, d, rfl⟩ := List.length_eq_two.1 two
    exact Or.inr ⟨c, d, rfl, second⟩

theorem IsSymbol.length_le_two (known : IsSymbol symbol) : symbol.length ≤ 2 := by
  rcases known.shape with ⟨c, rfl⟩ | ⟨c, d, rfl, _⟩
  · exact Nat.le_succ 1
  · exact Nat.le_refl 2

/-- A symbol is looked for before the symbols that are parts of it. -/
theorem precedence_lt_of_part (known : IsSymbol symbol) (known' : IsSymbol other)
    (part : other <:+: symbol) (proper : other ≠ symbol) :
    precedence symbol < precedence other := by
  have all : ∀ symbol ∈ symbols.map Prod.fst, ∀ other ∈ symbols.map Prod.fst, other <:+: symbol →
      other ≠ symbol → precedence symbol < precedence other := by
    decide +kernel
  exact all symbol known other known' part proper

/-- **A symbol is part of a longer one** with the character in front of it or the one behind it. -/
theorem isPartOfLonger_iff (known : IsSymbol symbol) {previous following : Option Char} :
    isPartOfLonger symbol previous following = true ↔
      (∃ c, previous = some c ∧ IsSymbol (c :: symbol)) ∨
        ∃ c, following = some c ∧ IsSymbol (symbol ++ [c]) := by
  simp only [IsSymbol, symbols, List.map_cons, List.map_nil, List.mem_cons, List.not_mem_nil,
    or_false] at known
  rcases known with rfl | rfl | rfl | rfl | rfl | rfl | rfl | rfl
  all_goals
    cases previous <;> cases following <;> simp [isPartOfLonger, IsSymbol, symbols, or_assoc]

end Known

section Stands

variable {symbol other front behind s t : List Char}

/-- The text behind a symbol begins outside quotes. -/
theorem Stands.after (known : IsSymbol symbol) (stands : Stands symbol front behind s) :
    Quoting.outside.after (front ++ symbol) = .outside := by
  rw [Quoting.after_append, stands.outside]
  exact Quoting.after_outside fun c mem => (known.chars c mem).1

/-- A symbol stands behind a text that ends outside quotes as it does by itself. -/
theorem Stands.append (ends : Quoting.outside.after t = .outside)
    (stands : Stands symbol front behind s) : Stands symbol (t ++ front) behind (t ++ s) where
  text := by rw [stands.text, List.append_assoc]
  outside := by rw [Quoting.after_append, ends, stands.outside]

/-- A symbol stands in front of any text as it does by itself. -/
theorem Stands.append_right (stands : Stands symbol front behind s) (t : List Char) :
    Stands symbol front (behind ++ t) (s ++ t) where
  text := by rw [stands.text, List.append_assoc, List.append_assoc]
  outside := stands.outside

/-- A symbol that is part of a longer one is looked for later than that. -/
theorem Stands.exists_longer (known : IsSymbol symbol) (stands : Stands symbol front behind s)
    (part : isPartOfLonger symbol front.getLast? behind.head? = true) :
    ∃ longer front' behind', IsSymbol longer ∧ Stands longer front' behind' s ∧
      front'.length ≤ front.length ∧ symbol.length < longer.length ∧
      precedence longer < precedence symbol := by
  have precedes {longer : List Char} (known' : IsSymbol longer) (infix_ : symbol <:+: longer)
      (length : symbol.length < longer.length) : precedence longer < precedence symbol := by
    refine precedence_lt_of_part known' known infix_ ?_
    rintro rfl
    exact Nat.lt_irrefl _ length
  rcases (isPartOfLonger_iff known).1 part with ⟨c, previous, known'⟩ | ⟨c, following, known'⟩
  · -- the character before belongs to the longer symbol, which therefore stands one place earlier
    obtain ⟨front', rfl⟩ := List.getLast?_eq_some_iff.1 previous
    have quote := (known'.chars c List.mem_cons_self).1
    have length : symbol.length < (c :: symbol).length := Nat.lt_succ_self _
    refine ⟨c :: symbol, front', behind, known', ⟨?_, ?_⟩, by simp, length,
      precedes known' (List.suffix_cons c symbol).isInfix length⟩
    · rw [stands.text, List.append_assoc]
      rfl
    · exact Quoting.after_of_concat quote stands.outside
  · -- the character behind belongs to it: the place is the same
    obtain ⟨behind', rfl⟩ := List.head?_eq_some_iff.1 following
    have length : symbol.length < (symbol ++ [c]).length := by simp
    refine ⟨symbol ++ [c], front, behind', known', ⟨?_, stands.outside⟩, Nat.le_refl _, length,
      precedes known' (List.prefix_append symbol [c]).isInfix length⟩
    rw [stands.text, List.append_assoc]
    rfl

end Stands

/-! ### What a search finds -/

/-- **The first of the divisions of a text** into a front and what is behind it that are of a kind,
if there are any. -/
def IsFirst (found : Option (List Char × List Char)) (kind : List Char → List Char → Prop) : Prop :=
  match found with
  | some (front, behind) =>
    kind front behind ∧ ∀ front' behind', kind front' behind' → front.length ≤ front'.length
  | none => ∀ front behind, ¬ kind front behind

/-- **What a search looks for** from a state of quoting and a previous character on: a place outside
quotes at which the symbol is no part of a longer one. -/
structure Occurs (symbol : List Char) (state : Quoting) (previous : Option Char)
    (s front behind : List Char) : Prop where
  text : s = front ++ (symbol ++ behind)
  outside : state.after front = .outside
  alone : isPartOfLonger symbol (front.getLast?.or previous) behind.head? = false

section Search

variable {symbol front behind s : List Char} {state : Quoting} {previous : Option Char} {c : Char}

/-- What is found behind a character is found in the rest of the text. -/
theorem occurs_cons_iff :
    Occurs symbol state previous (c :: s) (c :: front) behind ↔
      Occurs symbol (state.next c) (some c) s front behind := by
  have last : (c :: front).getLast?.or previous = front.getLast?.or (some c) := by
    rw [List.getLast?_cons]
    cases front.getLast? <;> rfl
  constructor
  · rintro ⟨text, outside, alone⟩
    exact ⟨(List.cons.inj text).2, outside, last ▸ alone⟩
  · rintro ⟨text, outside, alone⟩
    exact ⟨congrArg (c :: ·) text, outside, last.symm ▸ alone⟩

/-- Where nothing is found at a character, the search goes on behind it. -/
theorem IsFirst.cons {found : Option (List Char × List Char)}
    (here : ∀ behind, ¬ Occurs symbol state previous (c :: s) [] behind)
    (first : IsFirst found (Occurs symbol (state.next c) (some c) s)) :
    IsFirst (found.map fun (front, behind) => (c :: front, behind))
      (Occurs symbol state previous (c :: s)) := by
  -- every other place is one in the rest of the text
  have inRest {front behind : List Char}
      (occurs : Occurs symbol state previous (c :: s) front behind) :
      ∃ rest, front = c :: rest ∧ Occurs symbol (state.next c) (some c) s rest behind := by
    cases front with
    | nil => exact absurd occurs (here behind)
    | cons d rest =>
      obtain ⟨rfl, _⟩ := List.cons.inj occurs.text
      exact ⟨rest, rfl, occurs_cons_iff.1 occurs⟩
  cases found with
  | none =>
    intro front behind occurs
    obtain ⟨rest, _, occurs⟩ := inRest occurs
    exact first rest behind occurs
  | some parts =>
    obtain ⟨occurs, least⟩ := first
    refine ⟨occurs_cons_iff.2 occurs, fun front' behind' other => ?_⟩
    obtain ⟨rest, rfl, later⟩ := inRest other
    exact Nat.succ_le_succ (least rest behind' later)

/-- **A search finds the first place** at which a symbol stands that is no part of a longer one. -/
theorem divideAt?_isFirst (known : IsSymbol symbol) (state : Quoting) (previous : Option Char)
    (s : List Char) :
    IsFirst (divideAt? symbol state previous s) (Occurs symbol state previous s) := by
  fun_induction divideAt? symbol state previous s with
  | case1 =>
    -- at the end of the text no symbol is left
    intro front behind occurs
    have empty := List.append_eq_nil_iff.1 (List.append_eq_nil_iff.1 occurs.text.symm).2
    exact known.ne_nil empty.1
  | case2 state previous c rest behind found longer ih =>
    -- the symbol is here, but as a part of a longer one, so it does not count
    refine ih.cons fun behind' occurs => ?_
    have same : behind' = behind := by
      split at found
      · have text : c :: rest = symbol ++ behind' := occurs.text
        exact List.append_cancel_left (text.symm.trans (after?_eq_some_iff.1 found))
      · cases found
    have alone := occurs.alone
    rw [same] at alone
    exact absurd longer (Bool.eq_false_iff.1 alone)
  | case3 state previous c rest behind found alone =>
    -- it is here and alone, and no place comes before this one
    split at found
    · next plain =>
      have outside : state = .outside := by
        cases state with
        | outside => rfl
        | inside | escaped => cases plain
      have text : c :: rest = symbol ++ behind := after?_eq_some_iff.1 found
      exact ⟨⟨text, outside, Bool.eq_false_iff.2 alone⟩, fun _ _ _ => Nat.zero_le _⟩
    · cases found
  | case4 state previous c rest missed ih =>
    refine ih.cons fun behind occurs => ?_
    obtain rfl : state = .outside := occurs.outside
    -- the character is the first one of the symbol, so it is plain
    have text : c :: rest = symbol ++ behind := occurs.text
    have plain : isQuote c = false := by
      obtain ⟨d, more, rfl⟩ := List.exists_cons_of_ne_nil known.ne_nil
      obtain ⟨rfl, _⟩ := List.cons.inj text
      exact (known.chars c List.mem_cons_self).1
    rw [Quoting.isPlain_outside plain, if_pos rfl, after?_eq_some_iff.2 text] at missed
    cases missed

end Search

/-! ### Which symbol divides a condition -/

section Precedence

variable {symbol other s front behind : List Char} {operation : Operation}

theorem occurs_iff {s front behind : List Char} :
    Occurs symbol .outside none s front behind ↔ Stands symbol front behind s ∧
      isPartOfLonger symbol front.getLast? behind.head? = false := by
  have last : front.getLast?.or none = front.getLast? := Option.or_none
  constructor
  · rintro ⟨text, outside, alone⟩
    exact ⟨⟨text, outside⟩, last ▸ alone⟩
  · rintro ⟨⟨text, outside⟩, alone⟩
    exact ⟨text, outside, last.symm ▸ alone⟩

/-- The symbols in front of a symbol in the list are those that are looked for earlier. -/
theorem precedence_lt_iff {earlier later : List (List Char × Operation)}
    (split : symbols = earlier ++ (symbol, operation) :: later) :
    precedence other < precedence symbol ↔ other ∈ earlier.map Prod.fst := by
  have texts : symbols.map Prod.fst = earlier.map Prod.fst ++ symbol :: later.map Prod.fst := by
    rw [split, List.map_append, List.map_cons]
  have distinct : (symbols.map Prod.fst).Nodup := by decide
  -- the symbols of the list are distinct, so this one is none of those in front of it
  have new : symbol ∉ earlier.map Prod.fst := by
    rw [texts, List.nodup_append] at distinct
    exact fun mem => distinct.2.2 _ mem _ List.mem_cons_self rfl
  rw [precedence, precedence, texts, List.idxOf_append_of_notMem new, List.idxOf_cons_self,
    List.idxOf_append]
  constructor
  · intro less
    by_contra missing
    rw [if_neg missing] at less
    omega
  · intro mem
    rw [if_pos mem]
    exact List.idxOf_lt_length_of_mem mem

/-- **A condition is divided** at the first symbol in the list that divides it. -/
theorem divided?_eq_some_iff :
    divided? s = some (operation, front, behind) ↔
      ∃ symbol, (symbol, operation) ∈ symbols ∧ dividedBy? symbol s = some (front, behind) ∧
        ∀ other, IsSymbol other → precedence other < precedence symbol →
          dividedBy? other s = none := by
  rw [divided?]
  constructor
  · intro found
    obtain ⟨earlier, ⟨symbol, operation'⟩, later, split, here, missed⟩ :=
      List.findSome?_eq_some_iff.1 found
    obtain ⟨⟨front', behind'⟩, divides, same⟩ := Option.map_eq_some_iff.1 here
    obtain ⟨rfl, rfl, rfl⟩ := same
    refine ⟨symbol, split ▸ List.mem_append_right _ List.mem_cons_self, divides, ?_⟩
    intro other _ less
    obtain ⟨entry, mem, rfl⟩ := List.mem_map.1 ((precedence_lt_iff split).1 less)
    exact Option.map_eq_none_iff.1 (missed entry mem)
  · rintro ⟨symbol, known, divides, missed⟩
    obtain ⟨earlier, later, split⟩ := List.append_of_mem known
    -- all entries in front are passed over, since none of them divides the text
    refine List.findSome?_eq_some_iff.2 ⟨earlier, (symbol, operation), later, split, ?_, ?_⟩
    · dsimp only
      rw [divides]
      rfl
    · intro entry mem
      have less : precedence entry.1 < precedence symbol :=
        (precedence_lt_iff split).2 (List.mem_map_of_mem mem)
      have known' : IsSymbol entry.1 := by
        rw [IsSymbol, split, List.map_append]
        exact List.mem_append_left _ (List.mem_map_of_mem mem)
      dsimp only
      rw [missed entry.1 known' less]
      rfl

/-- What divides a condition stands outside quotes, is no part of a longer symbol and has something
in front of it. -/
theorem occurs_of_dividedBy? (known : IsSymbol symbol)
    (divides : dividedBy? symbol s = some (front, behind)) :
    front ≠ [] ∧ Occurs symbol .outside none s front behind ∧
      ∀ front' behind', Occurs symbol .outside none s front' behind' →
        front.length ≤ front'.length := by
  obtain ⟨found, nonempty⟩ := Option.filter_eq_some_iff.1 divides
  have first := divideAt?_isFirst known .outside none s
  rw [found] at first
  exact ⟨by simpa using nonempty, first⟩

/-- A symbol that is found divides the text unless it is first found at the start. -/
theorem dividedBy?_ne_none (known : IsSymbol symbol)
    (occurs : Occurs symbol .outside none s front behind)
    (start : ∀ behind', ¬ Occurs symbol .outside none s [] behind') :
    dividedBy? symbol s ≠ none := by
  have first := divideAt?_isFirst known .outside none s
  rw [dividedBy?]
  cases found : divideAt? symbol .outside none s with
  | none =>
    rw [found] at first
    exact absurd occurs (first front behind)
  | some parts =>
    obtain ⟨front', behind'⟩ := parts
    rw [found] at first
    -- an empty front is what `start` excludes
    have nonempty : front' ≠ [] := by
      rintro rfl
      exact start behind' first.1
    simp [nonempty]

end Precedence

/-! ### The leftmost symbol -/

section Leftmost

variable {symbol other front behind front' behind' s : List Char} {operation : Operation}

/-- A text with a symbol has a leftmost one. -/
theorem exists_leftmost (known : IsSymbol symbol) (contains : Contains symbol s) :
    ∃ symbol front behind, IsLeftmost symbol front behind s := by
  -- the place of a symbol counts more than its length, which is one or two
  let weight (entry : List Char × List Char × List Char) : Nat :=
    3 * entry.2.1.length + (2 - entry.1.length)
  obtain ⟨front, behind, stands⟩ := contains
  obtain ⟨⟨symbol, front, behind⟩, ⟨known, stands⟩, least⟩ :=
    (measure weight).wf.has_min {entry | IsSymbol entry.1 ∧ Stands entry.1 entry.2.1 entry.2.2 s}
      ⟨(symbol, front, behind), known, stands⟩
  have lightest {other front' behind' : List Char} (known' : IsSymbol other)
      (stands' : Stands other front' behind' s) :
      3 * front.length + (2 - symbol.length) ≤ 3 * front'.length + (2 - other.length) :=
    Nat.not_lt.1 (least (other, front', behind') ⟨known', stands'⟩)
  refine ⟨symbol, front, behind, known, stands, fun known' stands' => ?_, fun known' stands' => ?_⟩
  · have light := lightest known' stands'
    have some := List.length_pos_iff.2 known'.ne_nil
    omega
  · have light := lightest known' stands'
    have short := known'.length_le_two
    omega

/-- A symbol is the leftmost one if no character in front of it is part of a symbol and it does not
go on. -/
theorem isLeftmost_of_mild (known : IsSymbol symbol) (mild : ∀ c ∈ front, isMild c = true)
    (ends : ∀ c ∈ behind.head?, isSymbolChar c = false) :
    IsLeftmost symbol front behind (front ++ (symbol ++ behind)) where
  known := known
  stands := ⟨rfl, Quoting.after_outside fun c mem => isQuote_of_isMild (mild c mem)⟩
  first {other front' behind'} known' stands := by
    by_contra left
    -- the other symbol would begin with a character of the front, which is in no symbol
    obtain ⟨more, rfl⟩ : front' <+: front :=
      List.prefix_of_prefix_length_le ⟨_, stands.text.symm⟩ ⟨_, rfl⟩ (by omega)
    have text := stands.text
    rw [List.append_assoc] at text
    have rest := List.append_cancel_left text
    obtain ⟨c, more, rfl⟩ := List.exists_cons_of_ne_nil (l := more) (by rintro rfl; simp at left)
    obtain ⟨d, others, rfl⟩ := List.exists_cons_of_ne_nil known'.ne_nil
    obtain ⟨rfl, _⟩ := List.cons.inj rest
    have other := isSymbolChar_of_isMild (mild c (by simp))
    rw [known'.isSymbolChar c List.mem_cons_self] at other
    cases other
  longest {other behind'} known' stands := by
    by_contra longer
    have rest := List.append_cancel_left stands.text
    -- the longer symbol would go on with the character behind
    obtain ⟨more, rfl⟩ : symbol <+: other :=
      List.prefix_of_prefix_length_le ⟨_, rest⟩ ⟨_, rfl⟩ (by omega)
    obtain ⟨c, more, rfl⟩ := List.exists_cons_of_ne_nil (l := more) (by rintro rfl; simp at longer)
    rw [List.append_assoc] at rest
    have behind_ := List.append_cancel_left rest
    have other := ends c (by rw [behind_]; rfl)
    rw [known'.isSymbolChar c (by simp)] at other
    cases other

/-- **A symbol elsewhere** in the text stands behind the leftmost one or is a part of it. -/
theorem IsLeftmost.part_or_behind (leftmost : IsLeftmost symbol front behind s)
    (known : IsSymbol other) (stands : Stands other front' behind' s) :
    (front' = front ∧ symbol ++ behind = other ++ behind' ∧ other <+: symbol) ∨
      (∃ c, front' = front ++ [c] ∧ symbol = c :: other) ∨
        ∃ more, front' = front ++ (symbol ++ more) ∧ Stands other more behind' behind := by
  have texts := leftmost.stands.text.symm.trans stands.text
  obtain ⟨more, rfl⟩ : front <+: front' :=
    List.prefix_of_prefix_length_le ⟨_, texts⟩ ⟨_, rfl⟩ (leftmost.first known stands)
  rw [List.append_assoc] at texts
  have rest := List.append_cancel_left texts
  -- behind the symbol it does not matter what is in front
  have behind_ {more : List Char} (split : behind = more ++ (other ++ behind'))
      (stands : Stands other (front ++ (symbol ++ more)) behind' s) :
      ∃ more', front ++ (symbol ++ more) = front ++ (symbol ++ more') ∧
        Stands other more' behind' behind := by
    refine ⟨more, rfl, split, ?_⟩
    have outside := stands.outside
    rw [← List.append_assoc, Quoting.after_append, leftmost.stands.after leftmost.known] at outside
    exact outside
  cases more with
  | nil =>
    -- both begin at one place, where the leftmost one is the longest
    rw [List.append_nil] at stands ⊢
    refine Or.inl ⟨rfl, rest, ?_⟩
    exact List.prefix_of_prefix_length_le ⟨_, rest.symm⟩ ⟨_, rfl⟩ (leftmost.longest known stands)
  | cons c more =>
    -- the other begins later, and what is passed over begins with the leftmost symbol
    -- a symbol has one character, which is passed over, or two
    rcases leftmost.known.shape with ⟨c', rfl⟩ | ⟨c', d, rfl, _, alone⟩
    · obtain ⟨rfl, tail⟩ := List.cons.inj rest
      exact Or.inr (Or.inr (behind_ tail stands))
    · obtain ⟨rfl, tail⟩ := List.cons.inj rest
      cases more with
      | nil =>
        -- it begins inside of the leftmost symbol
        have head : other.head? = some d := by
          obtain ⟨e, _, rfl⟩ := List.exists_cons_of_ne_nil known.ne_nil
          exact congrArg some (List.cons.inj tail).1.symm
        exact Or.inr (Or.inl ⟨c', rfl, by rw [alone other known head]⟩)
      | cons e more =>
        obtain ⟨rfl, tail'⟩ := List.cons.inj tail
        exact Or.inr (Or.inr (behind_ tail' stands))

/-- A symbol that is looked for before the leftmost one stands only behind it. -/
theorem IsLeftmost.contains_behind (leftmost : IsLeftmost symbol front behind s)
    (known : IsSymbol other) (earlier : precedence other < precedence symbol)
    (contains : Contains other s) : Contains other behind := by
  -- what is part of a symbol is not looked for before it
  have later {part : List Char} (known : IsSymbol part) (infix_ : part <:+: symbol) :
      precedence symbol ≤ precedence part := by
    by_cases same : part = symbol
    · rw [same]
    · exact Nat.le_of_lt (precedence_lt_of_part leftmost.known known infix_ same)
  obtain ⟨front', behind', stands⟩ := contains
  rcases leftmost.part_or_behind known stands with
    ⟨_, _, begins⟩ | ⟨c, _, ends⟩ | ⟨more, _, stands⟩
  · exact absurd earlier (Nat.not_lt.2 (later known begins.isInfix))
  · have infix_ : other <:+: symbol := ends ▸ (List.suffix_cons c other).isInfix
    exact absurd earlier (Nat.not_lt.2 (later known infix_))
  · exact ⟨more, behind', stands⟩

/-- The leftmost symbol is no part of a longer one. -/
theorem IsLeftmost.occurs (leftmost : IsLeftmost symbol front behind s) :
    Occurs symbol .outside none s front behind := by
  refine occurs_iff.2 ⟨leftmost.stands, ?_⟩
  by_contra part
  obtain ⟨longer, front', behind', known, stands, left, length, _⟩ :=
    leftmost.stands.exists_longer leftmost.known (Bool.not_eq_false _ ▸ part)
  have same : front' = front := by
    have texts := stands.text.symm.trans leftmost.stands.text
    exact (List.append_inj texts (Nat.le_antisymm left (leftmost.first known stands))).1
  subst same
  exact absurd (leftmost.longest known stands) (Nat.not_le.2 length)

/-- **What a search finds** is the leftmost symbol, or a symbol behind it. -/
theorem IsLeftmost.eq_or_behind (leftmost : IsLeftmost symbol front behind s)
    (known : IsSymbol other) (occurs : Occurs other .outside none s front' behind') :
    (other, front', behind') = (symbol, front, behind) ∨
      ∃ more, front' = front ++ (symbol ++ more) ∧ Stands other more behind' behind := by
  obtain ⟨stands, alone⟩ := occurs_iff.1 occurs
  -- what a search finds is no part of a longer symbol
  have alone {P : Prop} (longer : (∃ c, front'.getLast? = some c ∧ IsSymbol (c :: other)) ∨
      ∃ c, behind'.head? = some c ∧ IsSymbol (other ++ [c])) : P := by
    rw [(isPartOfLonger_iff known).2 longer] at alone
    cases alone
  rcases leftmost.part_or_behind known stands with
    ⟨rfl, text, rest, rfl⟩ | ⟨c, rfl, rfl⟩ | behind_
  · rw [List.append_assoc] at text
    obtain rfl := List.append_cancel_left text
    cases rest with
    | nil => simp
    | cons c more =>
      -- a symbol has two characters at most
      cases more with
      | nil => exact alone (Or.inr ⟨c, rfl, leftmost.known⟩)
      | cons d more =>
        have short := leftmost.known.length_le_two
        have some := List.length_pos_iff.2 known.ne_nil
        simp only [List.length_append, List.length_cons] at short
        omega
  · exact alone (Or.inl ⟨c, List.getLast?_concat, leftmost.known⟩)
  · exact Or.inr behind_

/-- Nothing occurs at the start of a text with something in front of its leftmost symbol. -/
theorem IsLeftmost.not_occurs_start (leftmost : IsLeftmost symbol front behind s)
    (nonempty : front ≠ []) (known : IsSymbol other) (rest : List Char) :
    ¬ Occurs other .outside none s [] rest := by
  intro occurs
  have length := leftmost.first known (occurs_iff.1 occurs).1
  exact nonempty (List.length_eq_zero_iff.1 (Nat.le_zero.1 length))

/-- **A condition is divided at the leftmost symbol** if something is in front of that and no symbol
that is looked for earlier stands behind it. -/
theorem IsLeftmost.divided?_eq (leftmost : IsLeftmost symbol front behind s)
    (named : (symbol, operation) ∈ symbols) (nonempty : front ≠ [])
    (weak : ∀ other, IsSymbol other → precedence other < precedence symbol →
      ¬ Contains other behind) : divided? s = some (operation, front, behind) := by
  refine divided?_eq_some_iff.2 ⟨symbol, named, ?_, fun other known earlier => ?_⟩
  · -- its first place is the one where it is the leftmost symbol
    obtain ⟨⟨front', behind'⟩, divides⟩ :=
      Option.ne_none_iff_exists'.1 (dividedBy?_ne_none leftmost.known leftmost.occurs
        (leftmost.not_occurs_start nonempty leftmost.known))
    obtain ⟨_, occurs, first⟩ := occurs_of_dividedBy? leftmost.known divides
    have stands := (occurs_iff.1 occurs).1
    have length : front'.length = front.length :=
      Nat.le_antisymm (first _ _ leftmost.occurs) (leftmost.first leftmost.known stands)
    obtain ⟨rfl, rest⟩ := List.append_inj (stands.text.symm.trans leftmost.stands.text) length
    rw [divides, List.append_cancel_left rest]
  · -- a symbol that is looked for earlier would stand behind it
    by_contra divides
    obtain ⟨⟨front', behind'⟩, divides⟩ := Option.ne_none_iff_exists'.1 divides
    obtain ⟨_, occurs, _⟩ := occurs_of_dividedBy? known divides
    have contains : Contains other s := ⟨front', behind', (occurs_iff.1 occurs).1⟩
    exact weak other known earlier (leftmost.contains_behind known earlier contains)

/-- The symbol of a text that is looked for first is no part of a longer one. -/
theorem exists_first (known : IsSymbol symbol) (contains : Contains symbol s) :
    ∃ first, IsSymbol first ∧ precedence first ≤ precedence symbol ∧
      ∃ front behind, Occurs first .outside none s front behind := by
  obtain ⟨first, ⟨known', contains'⟩, least⟩ :=
    (measure precedence).wf.has_min {symbol | IsSymbol symbol ∧ Contains symbol s}
      ⟨symbol, known, contains⟩
  have least {other : List Char} (known : IsSymbol other) (contains : Contains other s) :
      precedence first ≤ precedence other :=
    Nat.not_lt.1 (least other ⟨known, contains⟩)
  obtain ⟨front, behind, stands⟩ := contains'
  refine ⟨first, known', least known contains, front, behind, occurs_iff.2 ⟨stands, ?_⟩⟩
  -- a longer symbol around it would be looked for earlier
  by_contra part
  obtain ⟨longer, front', behind', known, stands', _, _, earlier⟩ :=
    stands.exists_longer known' (Bool.not_eq_false _ ▸ part)
  exact absurd earlier (Nat.not_lt.2 (least known ⟨front', behind', stands'⟩))

section Divided

variable (leftmost : IsLeftmost symbol front behind s) (named : (other, operation) ∈ symbols)
  (divides : dividedBy? other s = some (front', behind'))
include leftmost named divides

/-- **When a condition is divided at its leftmost symbol**: if something is in front of that and no
symbol that is looked for earlier stands behind it. -/
theorem IsLeftmost.eq_iff_weak (missed : ∀ earlier, IsSymbol earlier →
    precedence earlier < precedence other → dividedBy? earlier s = none) :
    (other, front', behind') = (symbol, front, behind) ↔
      front ≠ [] ∧ ∀ earlier, IsSymbol earlier → precedence earlier < precedence symbol →
        ¬ Contains earlier behind := by
  have known : IsSymbol other := isSymbol_iff.2 ⟨operation, named⟩
  obtain ⟨nonempty, occurs, _⟩ := occurs_of_dividedBy? known divides
  constructor
  · intro same
    obtain ⟨rfl, rfl, rfl⟩ := same
    refine ⟨nonempty, fun earlier known' less contains => ?_⟩
    -- the first symbol of all would have divided the text before this one
    obtain ⟨more, rest, stands⟩ := contains
    have inWhole : Contains earlier s := by
      have whole : front ++ symbol ++ behind = s := by
        rw [List.append_assoc, ← leftmost.stands.text]
      exact ⟨_, rest, whole ▸ stands.append (leftmost.stands.after known)⟩
    obtain ⟨first, known'', less', _, _, occurs'⟩ := exists_first known' inWhole
    exact dividedBy?_ne_none known'' occurs' (leftmost.not_occurs_start nonempty known'')
      (missed first known'' (by omega))
  · -- the leftmost symbol divides the text as well, and there is one division: the symbols are the
    -- same, and the places can differ only by a repetition behind the first
    rintro ⟨nonempty', weak⟩
    obtain ⟨operation', named'⟩ := isSymbol_iff.1 leftmost.known
    have divided := leftmost.divided?_eq named' nonempty' weak
    rw [divided?_eq_some_iff.2 ⟨other, named, divides, missed⟩] at divided
    obtain ⟨rfl, rfl, rfl⟩ := Option.some.inj divided
    rcases leftmost.eq_or_behind known occurs with same | ⟨more, longer, _⟩
    · exact same
    · have lengths := congrArg List.length longer
      have some := List.length_pos_iff.2 leftmost.known.ne_nil
      simp only [List.length_append] at lengths
      omega

/-- **No symbol stands in front of the one at which a condition is divided** exactly if that is the
leftmost one. -/
theorem IsLeftmost.eq_iff_plain :
    (other, front', behind') = (symbol, front, behind) ↔
      ∀ symbol, IsSymbol symbol → ¬ Contains symbol front' := by
  have known : IsSymbol other := isSymbol_iff.2 ⟨operation, named⟩
  obtain ⟨nonempty, occurs, _⟩ := occurs_of_dividedBy? known divides
  constructor
  · -- a symbol in front would be further to the left
    intro same
    obtain ⟨rfl, rfl, rfl⟩ := same
    rintro inFront known' ⟨more, rest, stands⟩
    have stands' := stands.append_right (symbol ++ behind)
    rw [← leftmost.stands.text] at stands'
    have left := leftmost.first known' stands'
    have some := List.length_pos_iff.2 known'.ne_nil
    have lengths := congrArg List.length stands.text
    simp only [List.length_append] at lengths
    omega
  · -- otherwise the leftmost one is in front
    intro plain
    rcases leftmost.eq_or_behind known occurs with same | ⟨more, rfl, _⟩
    · exact same
    · exact absurd ⟨front, more, rfl, leftmost.stands.outside⟩ (plain symbol leftmost.known)

end Divided

end Leftmost

/-! ### Conditions -/

section Conditions

variable {symbol front behind s : List Char} {condition : Condition}

/-- White space around a text has no symbols. -/
theorem contains_trim_iff (known : IsSymbol symbol) :
    Contains symbol (Text.trim s) ↔ Contains symbol s := by
  have quiet {c : Char} (blank : Text.isBlank c = true) : isQuote c = false :=
    isQuote_of_isMild (isMild_of_isBlank blank)
  -- one blank is taken away at a time, in front and then behind
  refine Text.trim_induction (motive := fun t => Contains symbol t ↔ Contains symbol s) ?_ ?_
    Iff.rfl
  · intro c t blank same
    rw [← same]
    have skip : Quoting.outside.after [c] = .outside :=
      Quoting.after_outside (List.forall_mem_singleton.2 (quiet blank))
    constructor
    · rintro ⟨front, behind, stands⟩
      exact ⟨c :: front, behind, stands.append skip⟩
    · rintro ⟨front, behind, text, outside⟩
      cases front with
      | nil =>
        -- the symbol does not begin with white space
        obtain ⟨d, rest, rfl⟩ := List.exists_cons_of_ne_nil known.ne_nil
        obtain ⟨rfl, _⟩ := List.cons.inj text
        have other := (known.chars c List.mem_cons_self).2
        rw [blank] at other
        cases other
      | cons d front =>
        obtain ⟨rfl, rest⟩ := List.cons.inj text
        have before : Quoting.outside.after ([c] ++ front) = .outside := outside
        rw [Quoting.after_append, skip] at before
        exact ⟨front, behind, rest, before⟩
  · intro t c blank same
    rw [← same]
    constructor
    · rintro ⟨front, behind, stands⟩
      exact ⟨front, behind ++ [c], stands.append_right [c]⟩
    · rintro ⟨front, behind, text, outside⟩
      rcases List.eq_nil_or_concat' behind with rfl | ⟨rest, d, rfl⟩
      · -- nor does it end with white space
        obtain ⟨more, d, rfl⟩ := (List.eq_nil_or_concat' symbol).resolve_left known.ne_nil
        have split : t ++ [c] = (front ++ more) ++ [d] := by simpa using text
        obtain rfl : c = d := by simpa using (List.append_inj' split rfl).2
        have other := (known.chars c (by simp)).2
        rw [blank] at other
        cases other
      · have split : t ++ [c] = (front ++ (symbol ++ rest)) ++ [d] := by simpa using text
        exact ⟨front, rest, (List.append_inj' split rfl).1, outside⟩

/-- A condition with keywords is no comparison. -/
theorem not_comparison_of_keywords (read : keywordCondition? s = .ok (some condition)) :
    ¬ ∃ symbol, (symbol, condition.operation) ∈ symbols := by
  have apart : ∀ entry ∈ symbols, entry.2.isNullCheck = false ∧ entry.2.isMembership = false := by
    decide
  -- every way of reading keywords gives a null check or a membership
  have kind : condition.operation.isNullCheck = true ∨ condition.operation.isMembership = true := by
    rw [keywordCondition?] at read
    split at read
    · cases read
    · split at read
      · next operation found =>
        obtain rfl := Option.some.inj (Except.ok.inj read)
        left
        rw [nullCheck?] at found
        split at found
        · split at found <;> cases found
          rfl
        · split at found <;> cases found
          rfl
        · cases found
      · split at read
        · cases read
        · next operation list found =>
          split at read
          · cases read
          · split at read
            · obtain rfl := Option.some.inj (Except.ok.inj read)
              right
              rw [membership?] at found
              split at found
              all_goals
                obtain ⟨_, _, same⟩ := Option.map_eq_some_iff.1 found
                cases same
                rfl
            · cases read
  rintro ⟨symbol, named⟩
  have apart := apart _ named
  rcases kind with kind | kind
  · rw [apart.1] at kind
    cases kind
  · rw [apart.2] at kind
    cases kind

/-- **A comparison that is read** is divided at a symbol into its attribute and its value. -/
theorem comparison_of_readCondition (read : readCondition s = .ok condition)
    (compares : ∃ symbol, (symbol, condition.operation) ∈ symbols) :
    ∃ front behind, divided? s = some (condition.operation, front, behind) ∧
      condition.path = String.ofList (Text.trim front) ∧
        readValue (Text.trim behind) = .ok condition.value := by
  rw [readCondition] at read
  split at read
  · cases read
  · next found =>
    obtain rfl := Except.ok.inj read
    exact absurd compares (not_comparison_of_keywords found)
  · rw [symbolCondition] at read
    split at read
    · cases read
    · next operation front behind divides =>
      split at read
      · next value found =>
        obtain rfl := Except.ok.inj read
        exact ⟨front, behind, divides, rfl, found⟩
      · cases read

/-- What stands at the start of a trimmed text is not white space only. -/
theorem trim_ne_nil_of_append (tight : Text.trim (front ++ behind) = front ++ behind)
    (nonempty : front ≠ []) : Text.trim front ≠ [] := by
  obtain ⟨c, rest, rfl⟩ := List.exists_cons_of_ne_nil nonempty
  obtain ⟨d, found, plain⟩ := (Text.Tight.of_trim tight (List.cons_ne_nil _ _)).head
  obtain rfl : c = d := Option.some.inj found
  exact Text.trim_ne_nil List.mem_cons_self plain

end Conditions

/-- **The symbol that decides a comparison.** What is read as a comparison is a front, a symbol
outside quotes and what is behind it: the attribute is the trimmed front, and the value is read from
the trimmed rest. The symbol is the leftmost one of the text exactly if something stands in front of
the leftmost one and no symbol that is looked for earlier stands behind it; and it is so exactly if
no symbol stands in the attribute. -/
theorem readCondition_leftmost {s : List Char} {condition : Condition}
    (read : readCondition s = .ok condition)
    (compares : ∃ symbol, (symbol, condition.operation) ∈ symbols) :
    ∃ symbol front behind, (symbol, condition.operation) ∈ symbols ∧ Stands symbol front behind s ∧
      front ≠ [] ∧ condition.path = String.ofList (Text.trim front) ∧
      (Text.trim s = s → condition.path ≠ "") ∧
      readValue (Text.trim behind) = .ok condition.value ∧
      ∃ leftmost front' behind', IsLeftmost leftmost front' behind' s ∧
        ((symbol, front, behind) = (leftmost, front', behind') ↔
          front' ≠ [] ∧ ∀ earlier, IsSymbol earlier → precedence earlier < precedence leftmost →
            ¬ Contains earlier behind') ∧
        ((symbol, front, behind) = (leftmost, front', behind') ↔
          ∀ other, IsSymbol other → ¬ Contains other condition.path.toList) := by
  obtain ⟨front, behind, divided, path, value⟩ := comparison_of_readCondition read compares
  obtain ⟨symbol, named, divides, missed⟩ := divided?_eq_some_iff.1 divided
  have known : IsSymbol symbol := isSymbol_iff.2 ⟨_, named⟩
  obtain ⟨nonempty, occurs, _⟩ := occurs_of_dividedBy? known divides
  have stands := (occurs_iff.1 occurs).1
  -- some symbol stands in the text, so there is a leftmost one to compare with
  obtain ⟨leftmost, front', behind', isLeftmost⟩ := exists_leftmost known ⟨front, behind, stands⟩
  refine ⟨symbol, front, behind, named, stands, nonempty, path, fun tight => ?_, value,
    leftmost, front', behind', isLeftmost, isLeftmost.eq_iff_weak named divides missed,
    (isLeftmost.eq_iff_plain named divides).trans ?_⟩
  · rw [path, Ne, String.ofList_eq_empty_iff]
    rw [stands.text] at tight
    exact trim_ne_nil_of_append tight nonempty
  · -- the attribute is the front without its blanks, which hold no symbol
    refine forall₂_congr fun other known' => not_congr ?_
    rw [path, String.toList_ofList, contains_trim_iff known']

/-- The value of a comparison has a symbol that is looked for before the one in front of it. -/
theorem readCondition_leftmost_shadowed :
    readCondition "a = x!=y".toList = .ok ⟨"a = x", .notEquals, .text "y"⟩ ∧
      IsLeftmost ['='] ['a', ' '] " x!=y".toList "a = x!=y".toList ∧
      Contains ['='] "a = x".toList ∧
      ∃ symbol front behind, (symbol, Operation.notEquals) ∈ symbols ∧
        Stands symbol front behind "a = x!=y".toList ∧
        ∃ leftmost front' behind', IsLeftmost leftmost front' behind' "a = x!=y".toList ∧
          (symbol, front, behind) ≠ (leftmost, front', behind') := by
  have read : readCondition "a = x!=y".toList = .ok ⟨"a = x", .notEquals, .text "y"⟩ := by rfl
  have contains : Contains ['='] "a = x".toList := ⟨['a', ' '], [' ', 'x'], rfl, rfl⟩
  have leftmost : IsLeftmost ['='] ['a', ' '] " x!=y".toList "a = x!=y".toList := by
    refine isLeftmost_of_mild (by decide) ?_ fun c found => ?_
    · exact List.forall_mem_cons.2 ⟨rfl, List.forall_mem_singleton.2 rfl⟩
    · obtain rfl : ' ' = c := Option.some.inj found
      rfl
  obtain ⟨symbol, front, behind, named, stands, _, _, _, _, leftmost', front', behind', isLeftmost,
    _, plain⟩ := readCondition_leftmost read ⟨['!', '='], by decide⟩
  refine ⟨read, leftmost, contains, symbol, front, behind, named, stands, leftmost', front', behind',
    isLeftmost, fun same => ?_⟩
  exact plain.1 same ['='] (by decide) contains

end EntitySearch.Query
