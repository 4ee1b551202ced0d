import EntitySearch.Proofs.Query.Nesting
import EntitySearch.Proofs.Query.Strictness

/-!
# Levels stay balanced

Reading a query checks the structure of its text once and then takes it apart: white space and
enclosing parentheses are taken off, what is left is cut at its connectives, and each piece is taken
apart in the same way. None of these steps checks anything again, although each of them counts on
quotes and parentheses that are closed. By `levels_balanced` they are:

* the structure of every level is in order when that of the whole text is (`Visits.closed`), and the
  level is a part of the text (`Visits.within`), since nothing but white space and pairs of
  parentheses is taken off (`exists_wrapped`);
* that the structure is in order means that the depth of parentheses never falls below zero and that
  the text ends outside of quotes and parentheses (`checkFrom_eq_ok_iff`);
* a level is cut just where a connective stands outside of quotes and parentheses
  (`cutsAt_cutFrom`), and the pieces without the white space around them make up the level but for
  the white space around its connectives (`joined_trimmed`).

That the levels are all that is read is a fact about reading, not about texts: a reader that treats
these levels as reading does gives what reading gives, whatever it makes of other texts
(`eq_readLevel_of_visits`).
-/

namespace EntitySearch.Query

open Text (AllBlank)

/-! ### What the check says about depth -/

/-- **What the structure check accepts**: texts in which the depth never falls below zero and which
end outside of quotes and parentheses. -/
theorem checkFrom_eq_ok_iff {state : Quoting} {depth : Int} {s : List Char} (above : 0 ≤ depth) :
    checkFrom state depth s = .ok () ↔
      (∀ front, front <+: s → 0 ≤ (front.foldl Quoting.step (state, depth)).2) ∧
        s.foldl Quoting.step (state, depth) = (.outside, 0) := by
  fun_induction checkFrom state depth s with
  | case1 state depth quoted =>
    -- the text ends in quotes
    constructor
    · intro accepted
      cases accepted
    · rintro ⟨_, ends⟩
      exact absurd (congrArg Prod.fst ends) quoted
  | case2 state depth _ deep =>
    -- the text ends outside quotes, but in parentheses
    constructor
    · intro accepted
      cases accepted
    · rintro ⟨_, ends⟩
      exact absurd (congrArg Prod.snd ends) deep
  | case3 state depth outside level =>
    -- the text ends in order, and the empty front is all that is left of it
    refine iff_of_true rfl ⟨fun front part => ?_, ?_⟩
    · rw [List.prefix_nil.1 part]
      exact above
    · rw [not_not.1 outside, not_not.1 level]
      rfl
  | case4 state depth c rest behind below =>
    constructor
    · intro accepted
      cases accepted
    · -- the front that ends with this character closes too much
      rintro ⟨nonneg, _⟩
      exact absurd (nonneg [c] (List.prefix_append [c] rest)) (Int.not_le.2 below)
  | case5 state depth c rest behind kept ih =>
    -- a front of the text is empty, or this character and a front of the rest
    rw [ih (Int.not_lt.1 kept), List.foldl_cons]
    refine and_congr_left fun _ => ⟨fun nonneg front part => ?_, fun nonneg front part => ?_⟩
    · rcases List.prefix_cons_iff.1 part with rfl | ⟨more, rfl, inside⟩
      · exact above
      · exact nonneg more inside
    · exact nonneg (c :: front) ((List.prefix_cons_inj c).2 part)

/-! ### Levels as parts of a text -/

section Parts

variable {s query level piece : List Char} {pairs : Nat}

theorem eq_of_enclosed? {inner : List Char} (found : enclosed? s = some inner) :
    s = '(' :: (inner ++ [')']) := by
  cases s with
  | nil => cases found
  | cons c rest =>
    rw [enclosed?] at found
    split at found
    · next encloses =>
      -- that the parenthesis at the end closes the first one does not matter here
      obtain ⟨ends, _⟩ := Bool.and_eq_true_iff.1 encloses
      obtain ⟨first, last⟩ := Bool.and_eq_true_iff.1 ends
      obtain rfl := Option.some.inj found
      rw [of_decide_eq_true first, List.dropLast_append_getLast? _ (beq_iff_eq.1 last)]
    · cases found

/-- **What is taken off a level** is white space and pairs of parentheses. -/
theorem exists_wrapped (s : List Char) : ∃ pairs, Wrapped (unwrap s) pairs s := by
  fun_induction unwrap s with
  | case1 s inner found ih =>
    -- one more pair, around what is wrapped already
    obtain ⟨pairs, wrapped⟩ := ih
    obtain ⟨before, behind, blank, blank', split⟩ := Text.exists_padded s
    have pair := wrapped.pair blank blank'
    rw [eq_of_enclosed? found] at split
    exact ⟨pairs + 1, split ▸ pair⟩
  | case2 s _ =>
    obtain ⟨before, behind, blank, blank', split⟩ := Text.exists_padded s
    have bare : Wrapped (Text.trim s) 0 (before ++ (Text.trim s ++ behind)) := .bare blank blank'
    rw [← split] at bare
    exact ⟨0, bare⟩

/-- A piece is a part of the text that is cut. -/
theorem isInfix_of_mem_cut (mem : piece ∈ (cut s).all) : piece <:+: s := by
  have text : (cut s).text = s := text_cutFrom .outside 0 s
  rw [← text]
  rcases List.mem_cons.1 mem with rfl | mem
  · exact (List.prefix_append _ _).isInfix
  · obtain ⟨⟨connective, piece⟩, listed, rfl⟩ := List.mem_map.1 mem
    obtain ⟨before, behind, split⟩ := List.append_of_mem listed
    refine ⟨Pieces.text ⟨(cut s).first, before⟩ ++ [connective.symbol],
      Pieces.text ⟨[], behind⟩, ?_⟩
    simp [Pieces.text, split]

/-- **A level is a part of the text.** -/
theorem Visits.within (visits : Visits s level) : level <:+: s := by
  have unwrapped (text : List Char) : unwrap text <:+: text := by
    obtain ⟨pairs, wrapped⟩ := exists_wrapped text
    exact wrapped.isInfix
  induction visits with
  | here => exact unwrapped _
  | inside _ mem _ ih => exact (ih.trans (isInfix_of_mem_cut mem)).trans (unwrapped _)

theorem trim_unwrap (s : List Char) : Text.trim (unwrap s) = unwrap s := by
  fun_induction unwrap s with
  | case1 s inner _ ih => exact ih
  | case2 s _ => exact Text.trim_trim s

/-- No white space is left around a level. -/
theorem Visits.trim (visits : Visits s level) : Text.trim level = level := by
  induction visits with
  | here => exact trim_unwrap _
  | inside _ _ _ ih => exact ih

/-- The pieces of a level are visited. -/
theorem Visits.deeper (visits : Visits s level) (divided : (cut level).rest ≠ [])
    (mem : piece ∈ (cut level).all) : Visits s (unwrap piece) := by
  -- the visits begin at the whole text, and the new one is at their end
  induction visits with
  | here => exact .inside divided mem .here
  | inside divided' mem' _ ih => exact .inside divided' mem' (ih divided mem)

end Parts

/-! ### What reading reads

Reading a level is reading its pieces and putting together what they are read as. `readBy` leaves
open how the pieces are read, and reading is the reader that `readBy` makes of itself.
-/

/-- Reading a piece of a level by any reader of levels. -/
def pieceBy (reader : List Char → Except SyntaxFault Expression) (piece : List Char) :
    Except SyntaxFault Expression :=
  if (Text.trim piece).isEmpty then .error .missingOperand else reader piece

/-- **Reading a level** when its pieces are read by any reader of levels. -/
def readBy (strict : Bool) (reader : List Char → Except SyntaxFault Expression) (s : List Char) :
    Except SyntaxFault Expression :=
  let level := unwrap s
  if level.isEmpty then .error .emptyCondition
  else
    match (cut level).rest with
    | [] => (readCondition level).map .condition
    | (connective, _) :: _ =>
      if strict && (cut level).connectives.any (· ≠ connective) then
        .error (.mixedConnectives (String.ofList level))
      else ((cut level).all.mapM (pieceBy reader)).map (.group connective)

section Readers

variable {strict : Bool} {reader : List Char → Except SyntaxFault Expression} {s : List Char}

/-- Reading reads the pieces of a level as it reads the level. -/
theorem readLevel_eq_readBy (strict : Bool) (s : List Char) :
    readLevel strict s = readBy strict (readLevel strict) s := by
  rw [readBy]
  by_cases empty : unwrap s = []
  · rw [readLevel, empty]
    rfl
  -- otherwise these are the two equations of reading, for a condition and for a group
  cases cuts : (cut (unwrap s)).rest with
  | nil =>
    rw [readLevel_of_whole rfl empty cuts]
    simp [empty]
  | cons entry rest =>
    have piece : readPiece strict = pieceBy (readLevel strict) := rfl
    rw [readLevel_of_pieces rfl rfl cuts, piece]
    simp only [List.isEmpty_iff, empty, ↓reduceIte]

/-- How a level is read depends on nothing but how its pieces are. -/
theorem readBy_congr {other : List Char → Except SyntaxFault Expression}
    (same : (cut (unwrap s)).rest ≠ [] →
      ∀ piece ∈ (cut (unwrap s)).all, reader piece = other piece) :
    readBy strict reader s = readBy strict other s := by
  rw [readBy, readBy]
  cases cuts : (cut (unwrap s)).rest with
  | nil => rfl
  | cons entry rest =>
    have pieces : (cut (unwrap s)).all.mapM (pieceBy reader) =
        (cut (unwrap s)).all.mapM (pieceBy other) := by
      refine Outcome.mapM_congr fun piece mem => ?_
      rw [pieceBy, same (cuts ▸ List.cons_ne_nil entry rest) piece mem, pieceBy]
    simp only [pieces]

/-- **Reading reads the visited levels and nothing else**: a reader that treats these as reading
does gives the same expression or fault. -/
theorem eq_readLevel_of_visits
    (reads : ∀ text, Visits s (unwrap text) → reader text = readBy strict reader text) :
    reader s = readLevel strict s := by
  -- for every text whose level is visited, by induction on the levels of that text
  have each (text : List Char) : Visits s (unwrap text) → reader text = readLevel strict text := by
    induction text using level_induction with
    | step text ih =>
      intro visits
      rw [reads text visits, readLevel_eq_readBy]
      exact readBy_congr fun divided piece mem =>
        ih divided piece mem (visits.deeper divided mem)
  exact each s .here

end Readers

/-! ### Pieces without white space -/

namespace Pieces

/-- The pieces without the white space around them. -/
def trimmed (pieces : Pieces) : Pieces :=
  ⟨Text.trim pieces.first,
    pieces.rest.map fun (connective, piece) => (connective, Text.trim piece)⟩

theorem length_all_trimmed (pieces : Pieces) :
    pieces.trimmed.all.length = pieces.connectives.length + 1 := by
  simp [all, trimmed, connectives]

end Pieces

/-- **Pieces joined by their connectives**, with any white space around each connective and none at
the ends. -/
inductive Joined : Pieces → List Char → Prop
  | one {piece : List Char} : Joined ⟨piece, []⟩ piece
  | more {first next before behind text : List Char} {connective : Connective}
      {rest : List (Connective × List Char)} (blank : AllBlank before) (blank' : AllBlank behind)
      (others : Joined ⟨next, rest⟩ text) :
      Joined ⟨first, (connective, next) :: rest⟩
        (first ++ (before ++ connective.symbol :: (behind ++ text)))

/-- The pieces of any text are joined in it, apart from white space at its ends. -/
theorem exists_joined (pieces : Pieces) :
    ∃ before text behind, AllBlank before ∧ AllBlank behind ∧
      pieces.text = before ++ (text ++ behind) ∧ Joined pieces.trimmed text := by
  obtain ⟨first, rest⟩ := pieces
  induction rest generalizing first with
  | nil =>
    obtain ⟨before, behind, blank, blank', split⟩ := Text.exists_padded first
    have whole : Pieces.text ⟨first, []⟩ = first := List.append_nil first
    exact ⟨before, Text.trim first, behind, blank, blank', whole.trans split, .one⟩
  | cons entry rest ih =>
    obtain ⟨connective, piece⟩ := entry
    obtain ⟨before, gap, blank, blank', split⟩ := Text.exists_padded first
    obtain ⟨gap', text, behind, blank₁, blank₂, others, joined⟩ := ih piece
    -- the white space behind this piece and in front of the others stands around the connective
    refine ⟨before, Text.trim first ++ (gap ++ connective.symbol :: (gap' ++ text)), behind, blank,
      blank₂, ?_, .more blank' blank₁ joined⟩
    rw [text_cons, others]
    conv_lhs => rw [split]
    simp

/-- **The pieces of a text** without white space around it are joined in it. -/
theorem joined_trimmed {pieces : Pieces} (trim : Text.trim pieces.text = pieces.text) :
    Joined pieces.trimmed pieces.text := by
  obtain ⟨before, text, behind, blank, blank', split, joined⟩ := exists_joined pieces
  -- trimming would take off the white space at the ends, so there is none
  have short : before.length + (text.length + behind.length) ≤ text.length := calc
    before.length + (text.length + behind.length) = pieces.text.length := by
      rw [split, List.length_append, List.length_append]
    _ = (Text.trim text).length := by rw [← trim, split, Text.trim_padded blank text blank']
    _ ≤ text.length := length_trim_le text
  obtain rfl : before = [] := List.eq_nil_of_length_eq_zero (by omega)
  obtain rfl : behind = [] := List.eq_nil_of_length_eq_zero (by omega)
  rw [split, List.nil_append, List.append_nil]
  exact joined

/-! ### The levels of a checked text -/

/-- **A level that is cut in order.** -/
structure IsCutInOrder (level : List Char) : Prop where
  /-- There is one more piece than there are connectives. -/
  count : (cut level).trimmed.all.length = (cut level).connectives.length + 1
  /-- The depth never falls below zero. -/
  above : ∀ front, front <+: level → 0 ≤ (Quoting.position front).2
  /-- The cuts are at the connectives outside of quotes and parentheses. -/
  neutral : ∀ front connective rest, (cut level).CutsAt front connective rest ↔
    level = front ++ connective.symbol :: rest ∧ Quoting.position front = (.outside, 0)
  /-- The pieces make up the level but for white space around its connectives. -/
  joined : Joined (cut level).trimmed level

theorem isCutInOrder_of_checked {level : List Char} (checked : checkStructure level = .ok ())
    (trim : Text.trim level = level) : IsCutInOrder level where
  count := (cut level).length_all_trimmed
  above := ((checkFrom_eq_ok_iff (Int.le_refl 0)).1 checked).1
  neutral _ _ _ := cutsAt_cutFrom
  joined := by
    have text : (cut level).text = level := text_cutFrom .outside 0 level
    have tight : Text.trim (cut level).text = (cut level).text := by rw [text, trim]
    have joined := joined_trimmed tight
    rwa [text] at joined

/-- **Levels stay balanced.** When the structure of a text is in order, reading reads nothing but
levels whose structure is in order as well, which are parts of the text and cut in order. -/
theorem levels_balanced {s : List Char} (checked : checkStructure s = .ok ()) :
    (∀ strict reader,
      (∀ text, Visits s (unwrap text) → reader text = readBy strict reader text) →
        reader s = readLevel strict s) ∧
    ∀ level, Visits s level →
      checkStructure level = .ok () ∧ level <:+: s ∧ IsCutInOrder level := by
  refine ⟨fun strict reader reads => eq_readLevel_of_visits reads, fun level visits => ?_⟩
  have structured : checkStructure level = .ok () :=
    checkStructure_eq_ok_iff.2 (visits.closed (checkStructure_eq_ok_iff.1 checked))
  exact ⟨structured, visits.within, isCutInOrder_of_checked structured visits.trim⟩

/-- A text with a visited level is closed itself. -/
theorem closed_of_visits {s text : List Char} (closed : Closed true s)
    (visits : Visits s (unwrap text)) : Closed true text := by
  obtain ⟨pairs, wrapped⟩ := exists_wrapped text
  exact wrapped.closed (visits.closed closed)

/-- Checking the structure of the visited texts again changes nothing. -/
theorem readChecked_eq_readBy {strict : Bool} {s text : List Char} (closed : Closed true s)
    (visits : Visits s (unwrap text)) :
    readChecked strict text = readBy strict (readChecked strict) text := by
  have same {text : List Char} (visits : Visits s (unwrap text)) :
      readChecked strict text = readLevel strict text := by
    rw [readChecked, checkStructure_eq_ok_iff.2 (closed_of_visits closed visits)]
  rw [same visits, readLevel_eq_readBy]
  exact readBy_congr fun divided piece mem => (same (visits.deeper divided mem)).symm

/-- A query with quotation marks, parentheses and connectives inside of quotes. -/
def quotingQuery : String := " ( ( a = 'it\\'s (&' | b IS NULL ) &(c = \")|\") ) "

/-- The first level inside of `quotingQuery`. -/
def quotingLevel : List Char := "a = 'it\\'s (&' | b IS NULL".toList

/-- What stands in the outer parentheses of `quotingQuery`, and where it is cut. -/
theorem cut_quotingQuery :
    unwrap quotingQuery.toList = "( a = 'it\\'s (&' | b IS NULL ) &(c = \")|\")".toList ∧
    cut "( a = 'it\\'s (&' | b IS NULL ) &(c = \")|\")".toList =
      ⟨"( a = 'it\\'s (&' | b IS NULL ) ".toList, [(.and, "(c = \")|\")".toList)]⟩ :=
  ⟨by cbv, by rfl⟩

theorem visits_quotingLevel : Visits quotingQuery.toList quotingLevel := by
  obtain ⟨text, cuts⟩ := cut_quotingQuery
  have inner : unwrap "( a = 'it\\'s (&' | b IS NULL ) ".toList = quotingLevel := by cbv
  rw [← inner]
  refine .inside ?_ ?_ .here
  · rw [text, cuts]
    exact List.cons_ne_nil _ _
  · rw [text, cuts]
    exact List.mem_cons_self

/-- The first level inside of `quotingQuery` is cut at its only connective that is not quoted. -/
theorem levels_balanced_quotingQuery :
    checkStructure quotingQuery.toList = .ok () ∧
    readChecked true quotingQuery.toList = readLevel true quotingQuery.toList ∧
    Visits quotingQuery.toList quotingLevel ∧ checkStructure quotingLevel = .ok () ∧
    quotingLevel <:+: quotingQuery.toList ∧
    Quoting.position "a = 'it\\'s (&' ".toList = (.outside, 0) ∧
    Joined ⟨"a = 'it\\'s (&'".toList, [(.or, "b IS NULL".toList)]⟩ quotingLevel := by
  have checked : checkStructure quotingQuery.toList = .ok () := by rfl
  have closed := checkStructure_eq_ok_iff.1 checked
  obtain ⟨reads, levels⟩ := levels_balanced checked
  obtain ⟨structured, part, inOrder⟩ := levels quotingLevel visits_quotingLevel
  have cuts : (cut quotingLevel).CutsAt "a = 'it\\'s (&' ".toList .or " b IS NULL".toList :=
    ⟨[], " b IS NULL".toList, [], rfl, rfl, rfl⟩
  exact ⟨checked, reads true _ fun text visits => readChecked_eq_readBy closed visits,
    visits_quotingLevel, structured, part, ((inOrder.neutral _ _ _).1 cuts).2, inOrder.joined⟩

end EntitySearch.Query
