import EntitySearch.Proofs.Documents.Nulls
import EntitySearch.Proofs.Documents.Patterns

/-!
# Searching for a part of a text

Where patterns are wrapped, a pattern without `%` is put between two of them
(`Comparison.wrapped`). If there is no `_` in it either, all that is left to match are its letters,
so it fits a text exactly when the text contains it up to the case of letters
(`Pattern.matches_wrapped`).

What is matched is the text of a stored value, which all values but null have (`Json.HasText`):
numbers, arrays and objects have their JSON text, and booleans `1` or `0`. Together with what
patterns mean in general this tells the criteria with such a pattern
(`Criterion.satisfiedBy_pattern`): the one for what is like it finds the values whose text contains
it, and the one for what is unlike it finds all other values except null.
-/

namespace EntitySearch

namespace Text

/-- **Whether a text contains another one**, ignoring the case of letters. -/
def Contains (text part : String) : Prop :=
  part.toList.map foldCase <:+: text.toList.map foldCase

instance (text part : String) : Decidable (Contains text part) :=
  inferInstanceAs (Decidable (_ <:+: _))

/-- Letters that are the same one by one are those with the same foldings. -/
theorem forall₂_sameLetter_iff {s t : List Char} :
    List.Forall₂ (fun a c => sameLetter a c) s t ↔ s.map foldCase = t.map foldCase := by
  rw [← List.forall₂_eq_eq_eq, List.forall₂_map_left_iff, List.forall₂_map_right_iff]
  simp only [sameLetter, beq_iff_eq]

end Text

/-- **A wrapped pattern** matches what contains its text. -/
theorem Pattern.matches_wrapped {part text : String} (noRun : '%' ∉ part.toList)
    (noOne : '_' ∉ part.toList) :
    Matches Text.sameLetter ("%" ++ part ++ "%").toList text.toList ↔ Text.Contains text part := by
  have written : ("%" ++ part ++ "%").toList = ['%'] ++ (part.toList ++ ['%']) := by
    rw [String.toList_append, String.toList_append, List.append_assoc]
    rfl
  rw [written, matches_append]
  constructor
  · rintro ⟨before, rest, there, -, matched⟩
    obtain ⟨middle, behind, rfl, letters, -⟩ := matches_append.1 matched
    -- what the letters of the pattern take is equal to them up to case
    rw [matches_plain noRun noOne, Text.forall₂_sameLetter_iff] at letters
    refine ⟨before.map Text.foldCase, behind.map Text.foldCase, ?_⟩
    rw [← there, letters, List.map_append, List.map_append, List.append_assoc]
  · rintro ⟨before, behind, there⟩
    rw [List.append_assoc] at there
    -- the text is cut where its folded characters are
    obtain ⟨start, rest, split, rfl, folded⟩ := List.map_eq_append_iff.1 there.symm
    obtain ⟨middle, last, rfl, letters, rfl⟩ := List.map_eq_append_iff.1 folded
    refine ⟨start, middle ++ last, split.symm, matches_any start,
      matches_append.2 ⟨middle, last, rfl, ?_, matches_any last⟩⟩
    rw [matches_plain noRun noOne, Text.forall₂_sameLetter_iff, letters]

/-! ### The texts of stored values -/

/-- **The text of a stored value.** A text is its own, a boolean has `1` or `0`, and a number, an
array or an object has its JSON text. Null has none. -/
inductive Json.HasText : Json → String → Prop where
  | text (value : String) : HasText (.text value) value
  | yes : HasText (.bool true) "1"
  | no : HasText (.bool false) "0"
  | int (n : Int) : HasText (.int n) (Json.int n).compact
  | real (x : Double) : HasText (.real x) (Json.real x).compact
  | array (items : List Json) : HasText (.array items) (Json.array items).compact
  | object (members : List (String × Json)) :
    HasText (.object members) (Json.object members).compact

/-- Every value but null has a text. -/
theorem Json.exists_hasText_iff {value : Json} : (∃ text, value.HasText text) ↔ value ≠ null := by
  constructor
  · rintro ⟨text, has⟩ rfl
    cases has
  · intro known
    cases value with
    | null => exact absurd rfl known
    | bool value =>
      cases value with
      | true => exact ⟨_, HasText.yes⟩
      | false => exact ⟨_, HasText.no⟩
    | int n => exact ⟨_, HasText.int n⟩
    | real x => exact ⟨_, HasText.real x⟩
    | text value => exact ⟨_, HasText.text value⟩
    | array items => exact ⟨_, HasText.array items⟩
    | object members => exact ⟨_, HasText.object members⟩

namespace DocumentTest

variable {found : Json}

/-- Patterns are matched against the text of a value. -/
theorem patternText?_of_hasText {text : String} (has : found.HasText text) :
    patternText? found = some text := by
  cases has <;> rfl

/-- The text of a value is the one that patterns are matched against. -/
theorem patternText?_eq_some_iff {text : String} :
    patternText? found = some text ↔ found.HasText text := by
  constructor
  · intro spelled
    have known : found ≠ .null := by
      rintro rfl
      cases spelled
    obtain ⟨other, has⟩ := Json.exists_hasText_iff.2 known
    rw [patternText?_of_hasText has] at spelled
    exact Option.some.inj spelled ▸ has
  · exact patternText?_of_hasText

/-- A stored value fits a pattern if its text matches it, or if it does not where the pattern is
negated. -/
theorem fits_iff {pattern : String} {negated : Bool} :
    fits pattern negated found ↔
      ∃ text, found.HasText text ∧
        (Pattern.Matches Text.sameLetter pattern.toList text.toList ↔ negated = false) := by
  have matched (text : String) : ((CompiledPattern.ofSource pattern).isMatch text != negated) ↔
      (Pattern.Matches Text.sameLetter pattern.toList text.toList ↔ negated = false) := by
    rw [CompiledPattern.isMatch_ofSource, ← Pattern.fits_iff]
    cases Pattern.fits Text.sameLetter pattern.toList text.toList <;> cases negated <;> decide
  simp only [← patternText?_eq_some_iff]
  rw [fits]
  cases patternText? found with
  | none => simp only [Bool.false_eq_true, reduceCtorEq, false_and, exists_false]
  | some text => simp only [matched, Option.some.injEq, exists_eq_left']

section Wrapped

variable {part : String} (noRun : '%' ∉ part.toList) (noOne : '_' ∉ part.toList)

include noRun noOne

/-- A wrapped pattern finds the values whose text contains it. -/
theorem fits_wrapped :
    fits ("%" ++ part ++ "%") false found ↔
      ∃ text, found.HasText text ∧ Text.Contains text part := by
  simp only [fits_iff, Pattern.matches_wrapped noRun noOne, iff_true]

/-- A negated wrapped pattern finds the values whose text does not contain it. -/
theorem fits_wrapped_negated :
    fits ("%" ++ part ++ "%") true found ↔
      found ≠ .null ∧ ∀ text, found.HasText text → ¬Text.Contains text part := by
  simp only [fits_iff, Pattern.matches_wrapped noRun noOne, Bool.true_eq_false, iff_false,
    ← Json.exists_hasText_iff]
  -- a value has one text only
  constructor
  · rintro ⟨text, has, without⟩
    refine ⟨⟨text, has⟩, fun other has' => ?_⟩
    rw [← patternText?_eq_some_iff] at has has'
    exact Option.some.inj (has.symm.trans has') ▸ without
  · rintro ⟨⟨text, has⟩, without⟩
    exact ⟨text, has, without text has⟩

end Wrapped

end DocumentTest

/-- A literal that is converted to a pattern becomes a text, unless it is null. -/
theorem Field.eq_text_of_coerceFor {field : Field} {operation : Operation} {literal : Literal}
    {value : TypedValue} (pattern : operation.isPattern)
    (converted : field.coerceFor operation literal = .ok value) (known : value ≠ .null) :
    value = .text value.patternText := by
  have valued := Operation.isNullCheck_of_isPattern pattern
  have single := Operation.isMembership_of_isPattern pattern
  rw [coerceFor, valued, single, if_neg Bool.false_ne_true, if_neg Bool.false_ne_true,
    if_pos pattern, coercePattern] at converted
  split at converted
  · cases converted
  · split at converted
    · exact absurd (Except.ok.inj converted).symm known
    · split at converted
      · exact Except.ok.inj converted ▸ rfl
      · cases converted

namespace Criterion

/-- **What patterns find.** Every pattern can be compiled, and what it is compiled to matches the
texts that fall into consecutive pieces, one for each of its characters. Where patterns are wrapped,
a criterion with a pattern that has neither `%` nor `_` in it is satisfied by a stored value whose
text contains the pattern, or, if it is negated, by one whose text does not; null satisfies
neither. -/
theorem satisfiedBy_pattern :
    (∀ source : String, ∃ compiled : CompiledPattern,
      CompiledPattern.compile source = .ok compiled ∧ compiled.source = source) ∧
    (∀ (compiled : CompiledPattern) (text : String),
      compiled.isMatch text ↔
        ∃ pieces : List (List Char), pieces.flatten = text.toList ∧
          List.Forall₂ (Pattern.Takes Text.sameLetter) compiled.source.toList pieces) ∧
    ∀ (criterion : Criterion) (registry : Registry) (config : Config) (entity : String)
      (target : Attribute) (value : TypedValue),
      criterion.isAbout entity → registry.resolve entity criterion.path = .ok target →
      target.manyJoin? = none → config.wrapPatterns → criterion.operation.isPattern →
      target.field.coerceFor criterion.operation criterion.value = .ok value → value ≠ .null →
      '%' ∉ value.patternText.toList → '_' ∉ value.patternText.toList →
      criterion.comparison registry config entity =
          .ok ⟨target, criterion.operation, .text ("%" ++ value.patternText ++ "%")⟩ ∧
        ∀ document : Json,
          (criterion.operation = .like →
            (criterion.satisfiedBy registry config entity document ↔
              ∃ text, ((document.at? target.documentPath).getD .null).HasText text ∧
                Text.Contains text value.patternText)) ∧
          (criterion.operation = .notLike →
            (criterion.satisfiedBy registry config entity document ↔
              (document.at? target.documentPath).getD .null ≠ .null ∧
                ∀ text, ((document.at? target.documentPath).getD .null).HasText text →
                  ¬Text.Contains text value.patternText)) := by
  refine ⟨CompiledPattern.exists_compile, fun compiled text => ?_, ?_⟩
  · exact CompiledPattern.isMatch_iff.trans Pattern.matches_iff_pieces
  intro criterion registry config entity target value about resolved single wrap pattern converted
    known noRun noOne
  -- a pattern is converted to a text, or to null, which is excluded here
  have isText : value = .text value.patternText :=
    Field.eq_text_of_coerceFor pattern converted known
  -- without a percent sign of its own the text gets one at each end
  have wrapped : Comparison.wrapped config criterion.operation value =
      .text ("%" ++ value.patternText ++ "%") := by
    have without : (!value.patternText.toList.contains '%') = true := by
      rw [Bool.not_eq_true', List.contains_eq_mem, decide_eq_false_iff_not]
      exact noRun
    conv_lhs => rw [isText, Comparison.wrapped, pattern, wrap, without]
    rfl
  have compared : criterion.comparison registry config entity =
      .ok ⟨target, criterion.operation, .text ("%" ++ value.patternText ++ "%")⟩ :=
    comparison_eq_ok_iff.2 ⟨about, target, value, resolved, converted, by rw [wrapped]⟩
  refine ⟨compared, fun document => ?_⟩
  -- without a relation the test is one of the value at the path of the attribute
  have found : criterion.satisfiedBy registry config entity document =
      DocumentTest.fits ("%" ++ value.patternText ++ "%") (criterion.operation == .notLike)
        ((document.at? target.documentPath).getD .null) := by
    rw [satisfiedBy, compared]
    exact Database.passes_ofPattern single pattern
  rw [found]
  constructor
  · intro like
    rw [like]
    exact DocumentTest.fits_wrapped noRun noOne
  · intro notLike
    rw [notLike]
    exact DocumentTest.fits_wrapped_negated noRun noOne

/-- A criterion for a text with a full stop in it. -/
def likeDotted : Criterion := ⟨"C", "Task", "a", .like, .text "b.C"⟩

/-- A criterion for what has no digit two. -/
def unlikeTwo : Criterion := ⟨"C", "Task", "a", .notLike, .text "2"⟩

/-- The full stop stands for itself only, and a line break in front of it does no harm. A number is
searched by its digits, a boolean by its digit, and an array with its brackets. -/
theorem satisfiedBy_pattern_dotted :
    likeDotted.comparison Request.sharedRegistry {} "Task" =
        .ok ⟨⟨"Task", none, ["a"], ⟨"a", .text⟩⟩, .like, .text "%b.C%"⟩ ∧
      likeDotted.satisfiedBy Request.sharedRegistry {} "Task" (.object [("a", .text "\nB.cd")]) ∧
      ¬likeDotted.satisfiedBy Request.sharedRegistry {} "Task" (.object [("a", .text "bxC")]) ∧
      unlikeTwo.comparison Request.sharedRegistry {} "Task" =
        .ok ⟨⟨"Task", none, ["a"], ⟨"a", .text⟩⟩, .notLike, .text "%2%"⟩ ∧
      unlikeTwo.satisfiedBy Request.sharedRegistry {} "Task" (.object [("a", .int (-130))]) ∧
      ¬unlikeTwo.satisfiedBy Request.sharedRegistry {} "Task" (.object [("a", .int 1204)]) ∧
      unlikeTwo.satisfiedBy Request.sharedRegistry {} "Task" (.object [("a", .bool true)]) ∧
      ¬unlikeTwo.satisfiedBy Request.sharedRegistry {} "Task"
        (.object [("a", .array [.int 1, .int 2])]) ∧
      ¬unlikeTwo.satisfiedBy Request.sharedRegistry {} "Task" (.object []) := by
  have resolved : Request.sharedRegistry.resolve "Task" "a" =
      .ok ⟨"Task", none, ["a"], ⟨"a", .text⟩⟩ := by rfl
  obtain ⟨compared, found⟩ := satisfiedBy_pattern.2.2 likeDotted Request.sharedRegistry {} "Task" _
    (.text "b.C") (by decide) resolved rfl rfl rfl rfl TypedValue.noConfusion (by decide)
    (by decide)
  obtain ⟨compared', found'⟩ := satisfiedBy_pattern.2.2 unlikeTwo Request.sharedRegistry {} "Task" _
    (.text "2") (by decide) resolved rfl rfl rfl rfl TypedValue.noConfusion (by decide) (by decide)
  refine ⟨compared, ((found _).1 rfl).2 ⟨"\nB.cd", .text _, by decide⟩, fun satisfied => ?_,
    compared', ((found' _).2 rfl).2 ⟨Json.noConfusion, fun text has => ?_⟩, fun satisfied => ?_,
    ((found' _).2 rfl).2 ⟨Json.noConfusion, fun text has => ?_⟩, fun satisfied => ?_,
    fun satisfied => ?_⟩
  · obtain ⟨text, has, contained⟩ := ((found _).1 rfl).1 satisfied
    cases has
    exact absurd contained (by decide)
  · cases has
    decide
  · exact (((found' _).2 rfl).1 satisfied).2 _ (.int 1204) (by decide)
  · cases has
    decide
  · exact (((found' _).2 rfl).1 satisfied).2 _ (.array _) (by decide)
  · exact (((found' _).2 rfl).1 satisfied).1 rfl

end Criterion

end EntitySearch
