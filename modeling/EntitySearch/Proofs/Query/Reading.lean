import EntitySearch.Proofs.Query.Conditions

/-!
# Reading queries as they are written

Reading undoes writing: from every text in which an expression can be written the expression is read
(`read_layout`), with any white space, in any case of the keywords and with any parentheses around
its terms. The induction is on the parts of a written query (`Spells`):

* a condition is not enclosed and is cut nowhere, so it is read as a condition;
* a level in parentheses is read as the level between them, since reading a level takes white space
  and enclosing parentheses off first (`unwrap_parentheses`);
* the terms of a level are not enclosed together (`enclosed?_terms`), and cutting them at their
  connectives gives the terms with some blanks around them (`Pieces.Reads`).

A written level has one connective, so a strict reading has nothing to refuse in it.
-/

namespace EntitySearch.Query

open Text (AllBlank Tight)

variable {strict : Bool}

/-! ### What is taken off a level -/

section Unwrap

variable {s t : List Char}

/-- White space around a level does not matter. -/
theorem unwrap_congr (same : Text.trim s = Text.trim t) : unwrap s = unwrap t := by
  rw [unwrap, same, ← unwrap]

/-- A tight text that nothing encloses is a level as it stands. -/
theorem unwrap_of_tight (tight : Tight s) (plain : enclosed? s = none) : unwrap s = s := by
  rw [unwrap]
  split
  · next found =>
    rw [tight.trim_self, plain] at found
    cases found
  · exact tight.trim_self

/-- **Parentheses around a level** do not matter. -/
theorem unwrap_parentheses (closed : Closed true s) : unwrap ('(' :: (s ++ [')'])) = unwrap s := by
  have tight : Tight ('(' :: (s ++ [')'])) := tight_parentheses s
  have encloses := enclosed?_parentheses closed
  rw [unwrap]
  split
  · next found =>
    rw [tight.trim_self, encloses] at found
    rw [Option.some.inj found]
  · next found =>
    rw [tight.trim_self, encloses] at found
    cases found

theorem readLevel_congr (same : unwrap s = unwrap t) : readLevel strict s = readLevel strict t := by
  rw [readLevel, same, ← readLevel]

theorem readPiece_congr (same : Text.trim s = Text.trim t) :
    readPiece strict s = readPiece strict t := by
  rw [readPiece, same, readLevel_congr (unwrap_congr same), readPiece]

/-- What is read from a tight level is read from it as a piece. -/
theorem readPiece_of_readLevel {expression : Expression} (tight : Tight s)
    (read : readLevel strict s = .ok expression) : readPiece strict s = .ok expression := by
  rw [readPiece, tight.trim_self, List.isEmpty_eq_false_iff.2 tight.ne_nil,
    if_neg Bool.false_ne_true, read]

end Unwrap

/-! ### Conditions by themselves -/

section Condition

variable {s : List Char}

/-- A level that is neither enclosed nor cut is read as a condition. -/
theorem readLevel_condition (closed : Closed false s) (tight : Tight s)
    (head : s.head? ≠ some '(') : readLevel strict s = (readCondition s).map .condition := by
  have text : unwrap s = s := unwrap_of_tight tight (enclosed?_other head)
  have whole : (cut s).rest = [] := by rw [cut_of_closed closed]
  exact readLevel_of_whole text tight.ne_nil whole

/-- **A query that is one condition** is read as the condition, or refused as it is. -/
theorem read_condition (closed : Closed false s) (tight : Tight s) (head : s.head? ≠ some '(') :
    read strict (String.ofList s) = (readCondition s).map .condition := by
  have there : Text.isBlankText (String.ofList s) = false := by
    obtain ⟨c, found, plain⟩ := tight.head
    rw [Text.isBlankText, String.toList_ofList, List.all_eq_false]
    exact ⟨c, List.mem_of_mem_head? found, Bool.eq_false_iff.1 plain⟩
  rw [read, there, if_neg Bool.false_ne_true, readChecked, String.toList_ofList,
    checkStructure_of_closed closed]
  exact readLevel_condition closed tight head

section Spaced

variable {path : String} (named : IsPath path.toList)
include named

/-- A comparison with one space on either side of the symbol is read as a condition. -/
theorem read_comparison (closed : Closed false s) (tight : Tight s) :
    read strict (path ++ " = " ++ String.ofList s) =
      (readCondition (path.toList ++ ([' '] ++ (['='] ++ ([' '] ++ s))))).map .condition := by
  have query : path ++ " = " ++ String.ofList s =
      String.ofList (path.toList ++ ([' '] ++ (['='] ++ ([' '] ++ s)))) := by
    have symbol : " = ".toList = [' ', '=', ' '] := rfl
    rw [← String.toList_inj, String.toList_append, String.toList_append, symbol,
      String.toList_ofList, String.toList_ofList, List.append_assoc]
    rfl
  have whole : Closed false (path.toList ++ ([' '] ++ (['='] ++ ([' '] ++ s)))) :=
    (Closed.of_attribute named.plain).append (.ordinary rfl (.ordinary rfl (.ordinary rfl closed)))
  rw [query, read_condition whole (named.tight.around tight [' ', '=', ' ']) (named.head _)]

/-- A membership test with one space around its keyword is read as the values of its list. -/
theorem read_membership (closed : Closed true s) :
    read strict (path ++ " IN (" ++ String.ofList s ++ ")") =
      (readValues s).map fun items => .condition ⟨path, .oneOf, .list items⟩ := by
  have one : AllBlank [' '] := List.forall_mem_singleton.2 rfl
  have known : (["in"], Operation.oneOf) ∈ memberships := by decide
  have words : SpellsWords ["in"] ([' '] ++ (['I', 'N'] ++ [])) :=
    .cons one (List.cons_ne_nil _ _) (by decide) .nil
  -- the query as the pieces that the reader takes
  have query : path ++ " IN (" ++ String.ofList s ++ ")" =
      String.ofList (path.toList ++ ([' '] ++ (['I', 'N'] ++ []) ++
        ([' '] ++ '(' :: (s ++ [')'])))) := by
    have opening : " IN (".toList = [' ', 'I', 'N', ' ', '('] := rfl
    have closing : ")".toList = [')'] := rfl
    rw [← String.toList_inj, String.toList_append, String.toList_append, String.toList_append,
      opening, closing, String.toList_ofList, String.toList_ofList, List.append_assoc,
      List.append_assoc]
    rfl
  -- the parentheses keep whatever is in them inside of the level
  have whole : Closed false (path.toList ++ ([' '] ++ (['I', 'N'] ++ []) ++
      ([' '] ++ '(' :: (s ++ [')'])))) :=
    (Closed.of_attribute named.plain).append (.ordinary rfl (.ordinary rfl (.ordinary rfl
      (.ordinary rfl (.parentheses closed)))))
  have last : Tight [')'] := .singleton rfl
  rw [query, read_condition whole (named.tight.around last ([' ', 'I', 'N', ' ', '('] ++ s))
    (named.head _), readCondition_membership named known words one, String.ofList_toList]
  cases readValues s <;> rfl

end Spaced

end Condition

/-! ### The terms of a level -/

/-- **The pieces of a level** are read as its terms, and one connective stands between them. -/
structure Pieces.Reads (strict : Bool) (pieces : Pieces) (connective : Connective)
    (expressions : List Expression) : Prop where
  same : ∀ other ∈ pieces.connectives, other = connective
  read : List.Forall₂ (fun piece expression => readPiece strict piece = .ok expression) pieces.all
    expressions

section Terms

variable {connective : Connective} {expressions : List Expression} {s : List Char}

/-- A term cannot be enclosed together with the terms behind it. -/
theorem enclosed?_terms (spelled : Spells (.terms connective expressions) s)
    (several : 2 ≤ expressions.length) : enclosed? s = none := by
  cases spelled with
  | one first => exact absurd several (Nat.lt_irrefl 1)
  | @more _ _ _ s before behind rest first blank blank' others =>
    cases first with
    | condition spelled =>
      refine enclosed?_other ?_
      rw [List.head?_append_of_ne_nil _ spelled.tight.ne_nil]
      exact spelled.head
    | @enclosed _ front s back inner gap gap' =>
      have closed : Closed true (front ++ (s ++ back)) := inner.closed.padded gap gap'
      have more : before ++ connective.symbol :: (behind ++ rest) ≠ [] := by simp
      rw [List.cons_append, List.append_assoc]
      exact enclosed?_more closed more

/-- **Cutting at the connectives** gives the terms with blanks around them. -/
theorem Pieces.Reads.more {expression : Expression} {before behind rest : List Char}
    (first : Spells (.term expression) s) (read : readLevel strict s = .ok expression)
    (blank : AllBlank before) (blank' : AllBlank behind)
    (others : (cut rest).Reads strict connective expressions) :
    (cut (s ++ (before ++ connective.symbol :: (behind ++ rest)))).Reads strict connective
      (expression :: expressions) := by
  have closed : Closed false (s ++ before) := first.closed.append (.of_blank blank)
  have cuts : cut (s ++ (before ++ connective.symbol :: (behind ++ rest))) =
      ⟨s ++ before, (connective, behind ++ (cut rest).first) :: (cut rest).rest⟩ := by
    rw [← List.append_assoc, cut_append closed, cut_front (Closed.of_blank blank')]
  -- the blanks in front of the connective belong to the term, those behind it to the next one
  have here : readPiece strict (s ++ before) = .ok expression := by
    have trimmed : Text.trim (s ++ before) = Text.trim s := by
      rw [first.tight.trim_self]
      exact first.tight.trim_append Text.allBlank_nil blank
    rw [readPiece_congr trimmed, readPiece_of_readLevel first.tight read]
  have next : readPiece strict (behind ++ (cut rest).first) = readPiece strict (cut rest).first :=
    readPiece_congr (Text.trim_append_blank blank' _)
  rw [cuts]
  constructor
  · exact List.forall_mem_cons.2 ⟨rfl, others.same⟩
  · refine List.Forall₂.cons here ?_
    cases others.read with
    | cons first rest => exact List.Forall₂.cons (next.trans first) rest

/-- **A level of several terms is read as their group.** -/
theorem readLevel_terms (spelled : Spells (.terms connective expressions) s)
    (several : 2 ≤ expressions.length) (reads : (cut s).Reads strict connective expressions) :
    readLevel strict s = .ok (.group connective expressions) := by
  have text : unwrap s = s := unwrap_of_tight spelled.tight (enclosed?_terms spelled several)
  -- there are as many pieces as terms, and so there is a connective
  obtain ⟨⟨other, piece⟩, rest, more⟩ : ∃ entry rest, (cut s).rest = entry :: rest := by
    refine List.exists_cons_of_ne_nil fun whole => ?_
    have length := reads.read.length_eq
    rw [Pieces.all, whole, List.map_nil, List.length_singleton] at length
    omega
  obtain rfl : other = connective := reads.same other (by rw [Pieces.connectives, more]; simp)
  -- a strict reading finds no other one behind it
  have pure : (cut s).connectives.any (· ≠ other) = false := by
    rw [List.any_eq_false]
    intro connective mem
    simp [reads.same connective mem]
  rw [readLevel_of_pieces text rfl more, pure, Bool.and_false, if_neg Bool.false_ne_true,
    Outcome.mapM_eq_ok_iff.2 reads.read]
  rfl

end Terms

/-! ### Queries -/

/-- **What is written is read**, part by part. -/
theorem readLevel_spelled {part : Part} {s : List Char} (spelled : Spells part s) :
    match part with
    | .term expression | .level expression => readLevel strict s = .ok expression
    | .terms connective expressions => (cut s).Reads strict connective expressions := by
  induction spelled with
  | @condition condition s spelled =>
    -- nothing is taken off a condition, and it is one piece
    change readLevel strict s = _
    rw [readLevel_condition spelled.closed spelled.tight spelled.head,
      readCondition_spelled spelled]
    rfl
  | @enclosed expression before s behind inner blank blank' ih =>
    have closed : Closed true (before ++ (s ++ behind)) := inner.closed.padded blank blank'
    -- the parentheses are taken off, and the blanks in them
    have trimmed : Text.trim (before ++ (s ++ behind)) = Text.trim s := by
      rw [inner.tight.trim_append blank blank', inner.tight.trim_self]
    have text := (unwrap_parentheses closed).trans (unwrap_congr trimmed)
    exact (readLevel_congr text).trans ih
  | @one connective expression s first ih =>
    -- one term has no connective in it
    have cuts : cut s = ⟨s, []⟩ := cut_of_closed first.closed
    change (cut s).Reads strict connective [expression]
    rw [cuts]
    refine ⟨(fun _ mem => nomatch mem), List.Forall₂.cons ?_ List.Forall₂.nil⟩
    exact readPiece_of_readLevel first.tight ih
  | more first blank blank' _ ih ih' => exact .more first ih blank blank' ih'
  | term _ ih => exact ih
  | group several joined ih => exact readLevel_terms joined several ih

/-- **Reading undoes writing.** An expression has a layout exactly if it is one of those that can be
written, and from every layout the expression itself is read, strictly or not. -/
theorem read_layout (expression : Expression) :
    (IsWritable expression ↔ ∃ query, IsLayout query expression) ∧
      ∀ strict query, IsLayout query expression → read strict query = .ok expression := by
  refine ⟨isWritable_iff, ?_⟩
  rintro strict query ⟨before, s, behind, blank, blank', spelled, text⟩
  -- what is written begins with a character, so the query is not blank
  have there : Text.isBlankText query = false := by
    obtain ⟨c, found, plain⟩ := spelled.tight.head
    have mem : c ∈ query.toList := by
      rw [text]
      exact List.mem_append_right _ (List.mem_append_left _ (List.mem_of_mem_head? found))
    rw [Text.isBlankText, List.all_eq_false]
    exact ⟨c, mem, Bool.eq_false_iff.1 plain⟩
  have structured : checkStructure query.toList = .ok () := by
    rw [text]
    exact checkStructure_of_closed (spelled.closed.padded blank blank')
  have trimmed : Text.trim query.toList = Text.trim s := by
    rw [text, spelled.tight.trim_append blank blank', spelled.tight.trim_self]
  have level : readLevel strict s = .ok expression := readLevel_spelled spelled
  rw [read, there, if_neg Bool.false_ne_true, readChecked, structured]
  exact (readLevel_congr (unwrap_congr trimmed)).trans level

/-- A query with a group in parentheses and more white space and parentheses than it needs. -/
def wideQuery : String :=
  " (A_1 ~'it\\'s (1 & 2)'|( b  Is Not nULL ) ) & [c].d NOT  in( \"x\" ,'y|z')  "

/-- The tree of `wideQuery`. -/
def wideExpression : Expression :=
  .group .and [
    .group .or [.condition ⟨"A_1", .like, .text "it's (1 & 2)"⟩,
      .condition ⟨"b", .isNotNull, .null⟩],
    .condition ⟨"[c].d", .noneOf, .list [.text "x", .text "y|z"]⟩]

theorem read_layout_wideQuery :
    IsWritable wideExpression ∧ IsLayout wideQuery wideExpression ∧
      read true wideQuery = .ok wideExpression ∧ read false wideQuery = .ok wideExpression := by
  have one : AllBlank [' '] := List.forall_mem_singleton.2 rfl
  have two : AllBlank [' ', ' '] := List.forall_mem_cons.2 ⟨rfl, one⟩
  have none := Text.allBlank_nil
  have tilde : (['~'], Operation.like) ∈ symbols := by decide
  have like : SpellsCondition ⟨"A_1", .like, .text "it's (1 & 2)"⟩ _ :=
    .comparison (by decide +kernel) tilde (.text (by decide)) one none
  have isNotNullWords : SpellsWords ["is", "not", "null"]
      ([' ', ' '] ++
        ("Is".toList ++ ([' '] ++ ("Not".toList ++ ([' '] ++ ("nULL".toList ++ [])))))) :=
    .cons two (by decide) (by decide)
      (.cons one (by decide) (by decide) (.cons one (by decide) (by decide) .nil))
  have isNotNull : SpellsCondition ⟨"b", .isNotNull, .null⟩ _ :=
    .nullCheck (by decide +kernel) (by decide) isNotNullWords
  have notInWords : SpellsWords ["not", "in"]
      ([' '] ++ ("NOT".toList ++ ([' ', ' '] ++ ("in".toList ++ [])))) :=
    .cons one (by decide) (by decide) (.cons two (by decide) (by decide) .nil)
  have double : isQuote '\x22' = true := rfl
  have single : isQuote '\x27' = true := rfl
  have noneOf : SpellsCondition ⟨"[c].d", .noneOf, .list [.text "x", .text "y|z"]⟩ _ :=
    .membership (by decide +kernel) (by decide) notInWords none
      (.more (.quoted (by decide) double one one)
        (.one (.quoted (by decide) single none none)))
  have inner : Spells (.level (.group .or [_, _])) _ :=
    .group (Nat.le_refl 2)
      (.more (.condition like) none none
        (.one (.enclosed (.term (.condition isNotNull)) one one)))
  have outer : Spells (.level wideExpression) _ :=
    .group (Nat.le_refl 2) (.more (.enclosed inner none one) one one (.one (.condition noneOf)))
  have layout : IsLayout wideQuery wideExpression :=
    ⟨[' '], _, [' ', ' '], one, two, outer, by decide +kernel⟩
  obtain ⟨writable, reads⟩ := read_layout wideExpression
  exact ⟨writable.2 ⟨wideQuery, layout⟩, layout, reads true wideQuery layout,
    reads false wideQuery layout⟩

end EntitySearch.Query
