import EntitySearch.Query.Level
import Mathlib.Data.List.Basic

/-!
# Scanning closed texts

A query is scanned several times: for its structure, for the parentheses that enclose it, and for
the connectives at which it is cut. Every scanner goes over the characters from the left with the
state of quoting and the depth of parentheses, and does one and the same thing for each character
that it passes over (`PassesOver`). A text is closed when its quotes and parentheses are
(`Closed`). All scanners pass over a closed text as a whole, whatever follows it
(`PassesOver.closed`), so there is one induction for all of them, and what each one finds in a text
that is put together of closed ones is read off:

* the structure of a closed text is in order (`checkStructure_of_closed`);
* parentheses around a closed text enclose it (`enclosed?_parentheses`), and no other text that
  begins with them and goes on is enclosed (`enclosed?_more`);
* a closed text is cut nowhere but at its own plain connectives (`cut_of_closed`, `cut_append`).
-/

namespace EntitySearch.Query

namespace Quoting

variable {c mark : Char}

theorem isPlain_outside (other : isQuote c = false) : outside.isPlain c = true := by
  rw [isPlain, other]
  rfl

theorem next_outside (other : isQuote c = false) : outside.next c = outside := by
  rw [next, other, if_neg Bool.false_ne_true]

theorem isPlain_quote (quote : isQuote mark = true) : outside.isPlain mark = false := by
  rw [isPlain, quote]
  rfl

/-- A quotation mark opens quotes. -/
theorem next_quote (quote : isQuote mark = true) : outside.next mark = inside mark := by
  rw [next, if_pos quote]

/-- The mark that opened quotes closes them. -/
theorem next_mark (quote : isQuote mark = true) : (inside mark).next mark = outside := by
  rw [next, if_neg (ne_backslash_of_isQuote quote), if_pos rfl]

/-- No other character than a backslash changes anything in quotes. -/
theorem next_inside (mild : c ≠ '\\') (other : c ≠ mark) : (inside mark).next c = inside mark := by
  rw [next, if_neg mild, if_neg other]

theorem next_backslash (mark : Char) : (inside mark).next '\\' = escaped mark := by
  rw [next, if_pos rfl]

theorem next_escaped (mark c : Char) : (escaped mark).next c = inside mark := rfl

end Quoting

/-! ### Closed texts -/

/-- What stands between two quotation marks: any characters, of which the mark and the backslash
come after a backslash only. -/
inductive Inside (mark : Char) : List Char → Prop
  | nil : Inside mark []
  | plain {c : Char} {s : List Char} (mild : c ≠ '\\') (other : c ≠ mark) (rest : Inside mark s) :
      Inside mark (c :: s)
  | escaped {c : Char} {s : List Char} (rest : Inside mark s) : Inside mark ('\\' :: c :: s)

/-- Whether a character is none of the quotation marks, parentheses and connectives. -/
def isOrdinary (c : Char) : Bool :=
  !isQuote c && c != '(' && c != ')' && (Connective.ofSymbol? c).isNone

theorem isQuote_of_isOrdinary {c : Char} (plain : isOrdinary c = true) : isQuote c = false := by
  simp only [isOrdinary, Bool.and_eq_true, Bool.not_eq_true'] at plain
  exact plain.1.1.1

/-- **A closed text**: quoted texts, closed texts in parentheses and other characters, with plain
connectives outside all parentheses only if `joins` allows for them. -/
inductive Closed : Bool → List Char → Prop
  | nil {joins : Bool} : Closed joins []
  | ordinary {joins : Bool} {c : Char} {s : List Char} (plain : isOrdinary c = true)
      (rest : Closed joins s) : Closed joins (c :: s)
  | connective {connective : Connective} {s : List Char} (rest : Closed true s) :
      Closed true (connective.symbol :: s)
  | quoted {joins : Bool} {mark : Char} {body s : List Char} (quote : isQuote mark = true)
      (inside : Inside mark body) (rest : Closed joins s) :
      Closed joins (mark :: (body ++ mark :: s))
  | enclosed {joins : Bool} {inner s : List Char} (closed : Closed true inner)
      (rest : Closed joins s) : Closed joins ('(' :: (inner ++ ')' :: s))

namespace Closed

variable {joins : Bool} {s t : List Char}

theorem append (closed : Closed joins s) (closed' : Closed joins t) : Closed joins (s ++ t) := by
  induction closed with
  | nil => exact closed'
  | ordinary plain _ ih => exact ordinary plain (ih closed')
  | connective _ ih => exact connective (ih closed')
  | quoted quote inside _ ih =>
    rw [List.cons_append, List.append_assoc]
    exact quoted quote inside (ih closed')
  | enclosed inner _ _ ih =>
    rw [List.cons_append, List.append_assoc]
    exact enclosed inner (ih closed')

/-- A text without plain connectives may stand where they are allowed. -/
theorem weaken (closed : Closed joins s) : Closed true s := by
  induction closed with
  | nil => exact nil
  | ordinary plain _ ih => exact ordinary plain ih
  | connective _ ih => exact connective ih
  | quoted quote inside _ ih => exact quoted quote inside ih
  | enclosed inner _ _ ih => exact enclosed inner ih

theorem of_ordinary (plain : ∀ c ∈ s, isOrdinary c = true) : Closed joins s := by
  induction s with
  | nil => exact nil
  | cons c s ih =>
    exact ordinary (plain c List.mem_cons_self)
      (ih fun d mem => plain d (List.mem_cons_of_mem c mem))

end Closed

/-! ### Scanners -/

/-- **A scanner** passes over a character when it does one step for it and goes on behind it. It
does so as long as the depth does not fall below `low`, but over a plain connective only from the
depth `floor` on. -/
structure PassesOver {β : Type} (scan : Quoting → Int → List Char → β) (step : Char → β → β)
    (low floor : Int) : Prop where
  silent : ∀ state depth c rest, state.isPlain c = false → low ≤ depth →
    scan state depth (c :: rest) = step c (scan (state.next c) depth rest)
  plain : ∀ depth c rest, isQuote c = false → low ≤ depth → low ≤ depthAfter depth c →
    (Connective.ofSymbol? c = none ∨ floor ≤ depth) →
      scan .outside depth (c :: rest) = step c (scan .outside (depthAfter depth c) rest)
  near : floor ≤ low + 1

namespace PassesOver

variable {β : Type} {scan : Quoting → Int → List Char → β} {step : Char → β → β} {low floor : Int}
  {s : List Char}

/-- A scanner passes over the rest of a quoted text, whatever stands in it. -/
theorem inside (passes : PassesOver scan step low floor) {mark : Char} (inside : Inside mark s)
    (quote : isQuote mark = true) {depth : Int} (deep : low ≤ depth) (rest : List Char) :
    scan (.inside mark) depth (s ++ mark :: rest) =
      s.foldr step (step mark (scan .outside depth rest)) := by
  induction inside with
  | nil =>
    rw [List.nil_append, passes.silent _ _ _ _ rfl deep, Quoting.next_mark quote]
    rfl
  | plain mild other _ ih =>
    rw [List.cons_append, passes.silent _ _ _ _ rfl deep, Quoting.next_inside mild other, ih]
    rfl
  | escaped _ ih =>
    rw [List.cons_append, List.cons_append, passes.silent _ _ _ _ rfl deep,
      Quoting.next_backslash, passes.silent _ _ _ _ rfl deep, Quoting.next_escaped, ih]
    rfl

/-- **A scanner passes over a closed text.** -/
theorem closed (passes : PassesOver scan step low floor) {joins : Bool} (closed : Closed joins s)
    {depth : Int} (deep : low ≤ depth) (joint : joins = true → floor ≤ depth) (rest : List Char) :
    scan .outside depth (s ++ rest) = s.foldr step (scan .outside depth rest) := by
  -- for any depth, since what stands in parentheses is one level deeper
  induction closed generalizing depth rest with
  | nil => rfl
  | @ordinary joins c s plain _ ih =>
    simp only [isOrdinary, Bool.and_eq_true, Bool.not_eq_true', bne_iff_ne, ne_eq,
      Option.isNone_iff_eq_none] at plain
    obtain ⟨⟨⟨quote, open_⟩, close⟩, none⟩ := plain
    have level : depthAfter depth c = depth := by rw [depthAfter, if_neg open_, if_neg close]
    rw [List.cons_append,
      passes.plain depth c _ quote deep (level.symm ▸ deep) (Or.inl none), level,
      ih deep joint rest]
    rfl
  | @connective connective s _ ih =>
    have quote : isQuote connective.symbol = false := by cases connective <;> rfl
    -- a connective is passed over where the depth is above the floor
    have level : depthAfter depth connective.symbol = depth := by cases connective <;> rfl
    rw [List.cons_append,
      passes.plain depth _ _ quote deep (level.symm ▸ deep) (Or.inr (joint rfl)), level,
      ih deep joint rest]
    rfl
  | @quoted joins mark body s quote inside _ ih =>
    rw [List.cons_append, List.append_assoc, List.cons_append,
      passes.silent _ _ _ _ (Quoting.isPlain_quote quote) deep, Quoting.next_quote quote,
      passes.inside inside quote deep, ih deep joint rest, List.foldr_cons, List.foldr_append,
      List.foldr_cons]
  | @enclosed joins inner s _ _ ihInner ih =>
    have opens : depthAfter depth '(' = depth + 1 := rfl
    have closes : depthAfter (depth + 1) ')' = depth := by
      change depth + 1 - 1 = depth
      omega
    -- between them connectives are passed over
    have near := passes.near
    rw [List.cons_append, List.append_assoc, List.cons_append,
      passes.plain depth '(' _ rfl deep (by omega) (Or.inl rfl), opens,
      ihInner (by omega) (fun _ => by omega),
      passes.plain (depth + 1) ')' _ rfl (by omega) (by omega) (Or.inl rfl), closes,
      ih deep joint rest, List.foldr_cons, List.foldr_append, List.foldr_cons]

end PassesOver

/-- Steps that change nothing. -/
theorem foldr_idle {β : Type} (s : List Char) (b : β) : s.foldr (fun _ b => b) b = b := by
  induction s with
  | nil => rfl
  | cons c s ih => exact ih

/-! ### The structure check -/

theorem checkFrom_passesOver : PassesOver checkFrom (fun _ checked => checked) 0 0 where
  silent state depth c rest loud deep := by
    rw [checkFrom, loud, if_neg Bool.false_ne_true]
    exact if_neg (Int.not_lt.2 deep)
  plain depth c rest quote deep deep' _ := by
    rw [checkFrom, Quoting.isPlain_outside quote, if_pos rfl, Quoting.next_outside quote]
    exact if_neg (Int.not_lt.2 deep')
  near := by decide

/-- **The structure of a closed text is in order.** -/
theorem checkStructure_of_closed {joins : Bool} {s : List Char} (closed : Closed joins s) :
    checkStructure s = .ok () := by
  have passed := checkFrom_passesOver.closed closed (Int.le_refl 0) (fun _ => Int.le_refl 0) []
  rw [List.append_nil, foldr_idle] at passed
  exact passed

/-! ### Enclosing parentheses -/

theorem closesAtEnd_passesOver : PassesOver closesAtEnd (fun _ closes => closes) 1 1 where
  silent state depth c rest loud _ := by
    rw [closesAtEnd, loud, if_neg Bool.false_ne_true]
  plain depth c rest quote _ deep _ := by
    rw [closesAtEnd, Quoting.isPlain_outside quote, if_pos rfl, Quoting.next_outside quote]
    exact if_neg (by omega)
  near := by decide

section Enclosed

variable {s : List Char}

/-- The parenthesis at the start is closed by the one behind a closed text. -/
theorem closesAtEnd_parentheses (closed : Closed true s) (more : List Char) :
    closesAtEnd .outside 0 ('(' :: (s ++ ')' :: more)) = more.isEmpty := by
  have opens : closesAtEnd .outside 0 ('(' :: (s ++ ')' :: more)) =
      closesAtEnd .outside 1 (s ++ ')' :: more) := rfl
  rw [opens, closesAtEnd_passesOver.closed closed (Int.le_refl 1) (fun _ => Int.le_refl 1),
    foldr_idle]
  rfl

/-- **Parentheses around a closed text enclose it.** -/
theorem enclosed?_parentheses (closed : Closed true s) :
    enclosed? ('(' :: (s ++ [')'])) = some s := by
  have last : (s ++ [')']).getLast? = some ')' := List.getLast?_concat
  rw [enclosed?, closesAtEnd_parentheses closed, last, List.dropLast_concat]
  rfl

/-- Parentheses around the beginning of a text do not enclose it. -/
theorem enclosed?_more (closed : Closed true s) {more : List Char} (goes_on : more ≠ []) :
    enclosed? ('(' :: (s ++ ')' :: more)) = none := by
  rw [enclosed?, closesAtEnd_parentheses closed, List.isEmpty_eq_false_iff.2 goes_on,
    Bool.and_false]
  rfl

theorem enclosed?_other (other : s.head? ≠ some '(') : enclosed? s = none := by
  cases s with
  | nil => rfl
  | cons c s =>
    have different : c ≠ '(' := fun same => other (same ▸ rfl)
    rw [enclosed?, decide_eq_false different, Bool.false_and, Bool.false_and]
    rfl

end Enclosed

/-! ### Cutting -/

theorem cutFrom_passesOver : PassesOver cutFrom Pieces.grow 0 1 where
  silent state depth c rest loud _ := by
    rw [cutFrom, connectiveAt?, loud, Bool.false_and, if_neg Bool.false_ne_true]
    rfl
  plain depth c rest quote _ _ kept := by
    have uncut : connectiveAt? .outside depth c = none := by
      rw [connectiveAt?, Quoting.isPlain_outside quote, Bool.true_and]
      rcases kept with none | deep
      · rw [none, ite_self]
      · rw [decide_eq_false (by omega), if_neg Bool.false_ne_true]
    rw [cutFrom, uncut, Quoting.next_outside quote, Quoting.isPlain_outside quote]
    rfl
  near := by decide

/-- A text that is passed over stands in front of the first piece. -/
theorem foldr_grow (s : List Char) (pieces : Pieces) :
    s.foldr Pieces.grow pieces = { pieces with first := s ++ pieces.first } := by
  induction s with
  | nil => rfl
  | cons c s ih => rw [List.foldr_cons, ih]; rfl

section Cut

variable {s : List Char}

/-- **A closed text without connectives is cut nowhere**, whatever follows it. -/
theorem cut_front (closed : Closed false s) (rest : List Char) :
    cut (s ++ rest) = { cut rest with first := s ++ (cut rest).first } := by
  rw [cut, cutFrom_passesOver.closed closed (Int.le_refl 0) (fun joins => nomatch joins),
    foldr_grow]
  rfl

theorem cut_of_closed (closed : Closed false s) : cut s = ⟨s, []⟩ := by
  have empty : cut [] = ⟨[], []⟩ := rfl
  have whole := cut_front closed []
  rwa [List.append_nil, empty, List.append_nil] at whole

/-- **A connective behind a closed text** cuts it off. -/
theorem cut_append (closed : Closed false s) (connective : Connective) (rest : List Char) :
    cut (s ++ connective.symbol :: rest) =
      ⟨s, (connective, (cut rest).first) :: (cut rest).rest⟩ := by
  have here : cut (connective.symbol :: rest) = (cut rest).divide connective := by
    cases connective <;> rfl
  rw [cut_front closed, here, Pieces.divide, List.append_nil]

end Cut

end EntitySearch.Query
