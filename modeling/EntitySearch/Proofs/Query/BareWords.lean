import EntitySearch.Proofs.Numbers.Reading
import EntitySearch.Proofs.Query.QuotedValues
import EntitySearch.Proofs.Query.Symbols

/-!
# Bare words

A word without quotes can stand behind a comparison symbol and in a list of values. In a list its
characters are its value. Behind a symbol it may be recognised as a boolean, an integer or a number
with a point (`Recognises`), and only otherwise its characters are its value. What is recognised has
a text again, the word's text (`wordText`), which need not be the word: `TRUE`, `007` and `1.50`
have the texts `true`, `7` and `1.5`.
-/

namespace EntitySearch.Query

open Text (AllBlank NoBlank Tight)

/-! ### Reading bare words -/

/-- **A bare word**: not `null` in any case, and without white space, quotes, parentheses,
connectives, commas and comparison symbols. An exclamation mark by itself is no symbol. -/
structure IsBareWord (w : String) : Prop where
  nonempty : w.toList ≠ []
  notNull : Text.equalsIgnoringCase w.toList "null".toList = false
  noBlank : NoBlank w.toList
  plain : ∀ c ∈ w.toList, isOrdinary c = true ∧ c ∉ [',', '~', '=', '>', '<']

instance (w : String) : Decidable (IsBareWord w) :=
  decidable_of_iff
    (w.toList ≠ [] ∧ Text.equalsIgnoringCase w.toList "null".toList = false ∧
      w.toList.all (!Text.isBlank ·) = true ∧
      w.toList.all (fun c => isOrdinary c && c ∉ [',', '~', '=', '>', '<']) = true) <| by
    constructor
    · intro ⟨nonempty, notNull, noBlank, plain⟩
      refine ⟨nonempty, notNull, fun c mem => ?_, fun c mem => ?_⟩
      · simpa using List.all_eq_true.1 noBlank c mem
      · simpa only [Bool.and_eq_true, decide_eq_true_eq] using List.all_eq_true.1 plain c mem
    · intro ⟨nonempty, notNull, noBlank, plain⟩
      refine ⟨nonempty, notNull, List.all_eq_true.2 fun c mem => ?_,
        List.all_eq_true.2 fun c mem => ?_⟩
      · simpa using noBlank c mem
      · simpa only [Bool.and_eq_true, decide_eq_true_eq] using plain c mem

namespace IsBareWord

variable {path w : String} (bare : IsBareWord w)
include bare

theorem tight : Tight w.toList := .of_noBlank bare.noBlank bare.nonempty

theorem closed {joins : Bool} : Closed joins w.toList :=
  .of_ordinary fun c mem => (bare.plain c mem).1

/-- **Behind a symbol** the word is recognised. -/
theorem readValue : readValue w.toList = .ok (bareValue w.toList) := by
  have unquoted : quoted? w.toList = none :=
    quoted?_unmarked bare.nonempty fun c mem => isQuote_of_isOrdinary (bare.plain c mem).1
  rw [Query.readValue, List.isEmpty_eq_false_iff.2 bare.nonempty, unquoted]
  rfl

/-- **In a list** its characters are its value. -/
theorem readValues : readValues w.toList = .ok [.text w] := by
  have alone : splitValues .outside w.toList = [w.toList] := by
    have split := splitValues_outside (s := w.toList) (fun c mem =>
      ⟨isQuote_of_isOrdinary (bare.plain c mem).1,
        fun comma => (bare.plain c mem).2 (by simp [comma])⟩)
      []
    rw [List.append_nil] at split
    rw [split, splitValues, foldr_growFirst, List.append_nil]
  rw [Query.readValues, alone, List.map_singleton, bare.tight.trim_self]
  simp [bare.nonempty]

/-- No symbol stands in a bare word. -/
theorem not_contains {symbol : List Char} (known : IsSymbol symbol) :
    ¬ Contains symbol (' ' :: w.toList) := by
  rintro ⟨front, behind, stands⟩
  -- every symbol has one of the characters that a word has not
  have some : (symbols.map Prod.fst).all (·.any (['~', '=', '>', '<'].contains ·)) = true := by
    decide +kernel
  obtain ⟨c, inSymbol, loud⟩ := List.any_eq_true.1 (List.all_eq_true.1 some symbol known)
  have loud : c ∈ ['~', '=', '>', '<'] := List.contains_iff_mem.1 loud
  have mem : c ∈ ' ' :: w.toList := by
    rw [stands.text]
    simp [inSymbol]
  rcases List.mem_cons.1 mem with rfl | mem
  · revert loud
    decide
  · exact (bare.plain c mem).2 (List.mem_cons_of_mem _ loud)

theorem readCondition_comparison (named : IsPath path.toList) :
    readCondition (path.toList ++ ([' '] ++ (['='] ++ ' ' :: w.toList))) =
      .ok ⟨path, .equals, bareValue w.toList⟩ := by
  have one : AllBlank [' '] := List.forall_mem_singleton.2 rfl
  have known : (['='], Operation.equals) ∈ symbols := by decide
  -- nothing in the path or behind it is part of a symbol, so the equals sign is the leftmost one
  have mild : ∀ c ∈ path.toList ++ [' '], isMild c = true := by
    intro c mem
    rcases List.mem_append.1 mem with mem | mem
    · exact isMild_of_isAttributeChar (named.plain c mem)
    · exact isMild_of_isBlank (one c mem)
  have leftmost : IsLeftmost ['='] (path.toList ++ [' ']) (' ' :: w.toList)
      (path.toList ++ [' '] ++ (['='] ++ ' ' :: w.toList)) :=
    isLeftmost_of_mild (isSymbol_iff.2 ⟨_, known⟩) mild fun c found => by
      obtain rfl := Option.some.inj found
      rfl
  have divided := leftmost.divided?_eq known (by simp) fun _ known _ => bare.not_contains known
  -- both sides are trimmed down to the path and the word
  have front : Text.trim (path.toList ++ [' ']) = path.toList :=
    named.tight.trim_append Text.allBlank_nil one
  have back : Text.trim (' ' :: w.toList) = w.toList :=
    (Text.trim_append_blank one w.toList).trans bare.tight.trim_self
  rw [readCondition, keywordCondition?_comparison named known one]
  dsimp only
  rw [symbolCondition, ← List.append_assoc, divided]
  dsimp only
  rw [back, bare.readValue, front, String.ofList_toList]

variable (strict : Bool)

/-- **A comparison with a bare word is read** as what is recognised in the word. -/
theorem read_comparison (named : IsPath path.toList) :
    read strict (path ++ " = " ++ w) = .ok (.condition ⟨path, .equals, bareValue w.toList⟩) := by
  have whole : read strict _ = _ := Query.read_comparison named bare.closed bare.tight
  rw [String.ofList_toList] at whole
  exact whole.trans (congrArg _ (bare.readCondition_comparison named))

/-- **A membership test with a bare word is read** as the list of its text. -/
theorem read_membership (named : IsPath path.toList) :
    read strict (path ++ " IN (" ++ w ++ ")") =
      .ok (.condition ⟨path, .oneOf, .list [.text w]⟩) := by
  have whole : read strict _ = _ := Query.read_membership named bare.closed
  rw [String.ofList_toList, bare.readValues] at whole
  exact whole

end IsBareWord

/-! ### What is recognised in a word -/

/-- **What a word can be recognised as**, with the text of that: a boolean, an integer in the 64-bit
range, a number with a point, or a text. -/
inductive Recognises (w : String) : Literal → String → Prop
  | bool {b : Bool} (word : boolOfWord? w.toList = some b) :
    Recognises w (.bool b) (if b then "true" else "false")
  | integer {n : Int} (read : Number.readInt? Number.minInt64 Number.maxInt64 w.toList = some n) :
    Recognises w (.integer n) (Number.intText n)
  | float {x : Double} (point : '.' ∈ w.toList) (read : Double.read? w.toList = some x) :
    Recognises w (.float x) x.plain
  | text : Recognises w (.text w) w

/-- **The text of a word**: that of what is recognised in it. -/
def wordText (w : String) : String := ((bareValue w.toList).scalarText?).getD w

section Recognition

variable {w t : String} {literal : Literal}

theorem Recognises.isNull (recognises : Recognises w literal t) : literal.isNull = false := by
  cases recognises <;> rfl

theorem Recognises.scalarText? (recognises : Recognises w literal t) :
    literal.scalarText? = some t := by
  cases recognises <;> rfl

/-- The text that a word stands for has no white space. -/
theorem Recognises.noBlank (recognises : Recognises w literal t) (plain : NoBlank w.toList) :
    NoBlank t.toList := by
  cases recognises with
  | @bool b _ => cases b <;> exact .of_all rfl
  | integer _ => exact noBlank_intText _
  | float _ _ => exact Double.noBlank_plain _
  | text => exact plain

/-- **Something is recognised in every bare word.** -/
theorem IsBareWord.recognises (bare : IsBareWord w) :
    Recognises w (bareValue w.toList) (wordText w) := by
  -- the readers are tried in one order, and the first one that reads the word recognises it
  have some : ∃ t, Recognises w (bareValue w.toList) t := by
    unfold bareValue
    split
    · next word => exact ⟨_, .bool (by rw [boolOfWord?, if_pos word])⟩
    · next other =>
      split
      · next word => exact ⟨_, .bool (by rw [boolOfWord?, if_neg other, if_pos word])⟩
      · rw [if_neg (Bool.eq_false_iff.1 bare.notNull)]
        split
        · next read => exact ⟨_, .integer read⟩
        · split
          · next found =>
            split at found
            · next point => exact ⟨_, .float (by simpa using point) found⟩
            · cases found
          · rw [String.ofList_toList]
            exact ⟨_, .text⟩
  obtain ⟨t, recognises⟩ := some
  rw [wordText, recognises.scalarText?]
  exact recognises

end Recognition

end EntitySearch.Query
