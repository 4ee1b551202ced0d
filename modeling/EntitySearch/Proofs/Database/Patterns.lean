import EntitySearch.Proofs.Database.Agreement
import EntitySearch.Proofs.Documents.Patterns
import Mathlib.Data.List.TakeWhile

/-!
# Patterns in a database and in memory

A pattern is matched twice: in memory against the text of a document, and in a database against the
characters that its engine reads in the stored text. Both matchers are the same up to one thing,
when two characters count as the same letter. In memory that is simple case folding
(`Text.sameLetter`). The engine folds the letters of ASCII only, and reads the two last points of
the basic plane as the replacement character (`Database.sameForEngine`).

The main statement, `Database.like_agrees`, gives the meaning of both sides, and from it

* what both have in common: they agree on every pattern and text between whose characters the two
  notions of a letter do not differ, as between ASCII characters and characters that folding does
  not change;
* in which direction they differ otherwise: whatever is the same letter for the engine is so in
  memory (`Database.sameLetter_of_sameForEngine`), so a database may miss a match of the memory and
  has no other ones.

A pattern ends at a NUL for the engine, but not in memory.
-/

namespace EntitySearch

/-! ### Letters -/

namespace Text

/-- Characters outside of ASCII have no lower case here. -/
theorem toLower_of_not_ascii {c : Char} (outside : 128 ≤ c.toNat) : c.toLower = c := by
  rw [Char.toLower, dif_neg]
  rintro ⟨_, below⟩
  have below : c.toNat ≤ 90 := UInt32.le_iff_toNat_le.1 below
  omega

/-- The lower case of an ASCII character is an ASCII character. -/
theorem toNat_toLower_lt {c : Char} (inside : c.toNat < 128) : c.toLower.toNat < 128 := by
  rw [Char.toLower]
  split
  · next upper =>
    have below : c.toNat ≤ 90 := UInt32.le_iff_toNat_le.1 upper.2
    change (c.val + 32).toNat < 128
    rw [UInt32.toNat_add]
    change (c.toNat + 32) % 2 ^ 32 < 128
    omega
  · exact inside

/-- **Characters with one lower case are one letter.** -/
theorem sameLetter_of_toLower {a c : Char} (same : a.toLower = c.toLower) : sameLetter a c := by
  refine beq_iff_eq.2 ?_
  -- lower case leads neither out of ASCII nor into it, so both characters are on the same side
  by_cases inside : a.toNat < 128
  · have inside' : c.toNat < 128 := by
      by_contra outside
      have kept : c.toLower = c := toLower_of_not_ascii (Nat.le_of_not_lt outside)
      rw [kept] at same
      exact outside (same ▸ toNat_toLower_lt inside)
    rw [foldCase, foldCase, if_pos inside, if_pos inside', same]
  · have kept : a.toLower = a := toLower_of_not_ascii (Nat.le_of_not_lt inside)
    have outside : ¬ c.toNat < 128 := by
      intro inside'
      rw [kept] at same
      exact inside (same ▸ toNat_toLower_lt inside')
    have kept' : c.toLower = c := toLower_of_not_ascii (Nat.le_of_not_lt outside)
    rw [← kept, same, kept']

end Text

namespace Database

/-- **Whether the engine takes two characters for the same letter.** -/
def sameForEngine (a c : Char) : Bool :=
  (Value.patternChar a.toNat).toLower == (Value.patternChar c.toNat).toLower

namespace Value

/-- The engine reads a character as it stands, unless it is a stray one. -/
theorem patternChar_of_not_stray {c : Char} (whole : isStray c.toNat = false) :
    patternChar c.toNat = c := by
  rw [patternChar, whole, if_neg Bool.false_ne_true, Char.ofNat_toNat]

/-- No other character is read as an ASCII character. -/
theorem patternChar_eq_iff {c : Char} (ascii : c.toNat < 128) (a : Char) :
    patternChar a.toNat = c ↔ a = c := by
  cases stray : isStray a.toNat with
  | false => rw [patternChar_of_not_stray stray]
  | true =>
    -- a stray character is replaced, and it is not the ASCII one before or after that
    have replaced : patternChar a.toNat = '\uFFFD' := by rw [patternChar, stray, if_pos rfl]
    have outside : 128 ≤ a.toNat := by
      simp only [isStray, Bool.or_eq_true, Bool.and_eq_true, decide_eq_true_iff] at stray
      omega
    rw [replaced]
    constructor
    · rintro rfl
      exact absurd ascii (by decide)
    · rintro rfl
      omega

/-- The characters that the engine reads in a text go up to its first NUL. -/
theorem patternChars_pointsOf (s : List Char) :
    patternChars (s.map Char.toNat) =
      (s.takeWhile (· ≠ '\x00')).map fun c => patternChar c.toNat := by
  have same : ((· ≠ 0 : Nat → Bool) ∘ Char.toNat) = fun c => decide (c ≠ '\x00') := by
    funext c
    have zero : c.toNat = 0 ↔ c = '\x00' := by
      rw [← Char.toNat_inj]
      rfl
    simp only [Function.comp_apply, ne_eq, zero]
  rw [patternChars, untilNul, List.takeWhile_map, List.map_map, same]
  rfl

end Value

/-- A text without a NUL is read to its end. -/
theorem takeWhile_of_not_mem {s : List Char} (plain : '\x00' ∉ s) :
    s.takeWhile (· ≠ '\x00') = s := by
  refine List.takeWhile_eq_self_iff.2 fun c mem => decide_eq_true_iff.2 ?_
  rintro rfl
  exact plain mem

/-- **What is the same letter for the engine is so in memory**, if the engine reads both characters
as they stand. -/
theorem sameLetter_of_sameForEngine {a c : Char} (whole : Value.isStray a.toNat = false)
    (whole' : Value.isStray c.toNat = false) (same : sameForEngine a c) : Text.sameLetter a c := by
  rw [sameForEngine, beq_iff_eq, Value.patternChar_of_not_stray whole,
    Value.patternChar_of_not_stray whole'] at same
  exact Text.sameLetter_of_toLower same

/-- A character that is compared by its ASCII case alone: it is an ASCII character, or folding does
not change it, and the engine reads it as it stands. -/
def isSettled (c : Char) : Bool :=
  c.toNat < 128 || (Text.foldPoint c.toNat == c.toNat && !Value.isStray c.toNat)

/-- A settled character is folded to what the engine makes of it. -/
theorem foldCase_of_isSettled {c : Char} (settled : isSettled c) :
    Text.foldCase c = (Value.patternChar c.toNat).toLower.toNat := by
  rw [isSettled, Bool.or_eq_true, decide_eq_true_iff] at settled
  -- a character of ASCII is lowered on both sides, any other one is kept on both
  rcases settled with inside | settled
  · have whole : Value.isStray c.toNat = false := by
      simp only [Value.isStray, Bool.or_eq_false_iff, Bool.and_eq_false_iff,
        decide_eq_false_iff_not]
      omega
    rw [Text.foldCase, if_pos inside, Value.patternChar_of_not_stray whole]
  · by_cases inside : c.toNat < 128
    · have whole : Value.isStray c.toNat = false := by
        simpa using (Bool.and_eq_true_iff.1 settled).2
      rw [Text.foldCase, if_pos inside, Value.patternChar_of_not_stray whole]
    · obtain ⟨kept, whole⟩ := Bool.and_eq_true_iff.1 settled
      have whole : Value.isStray c.toNat = false := by simpa using whole
      rw [Text.foldCase, if_neg inside, beq_iff_eq.1 kept, Value.patternChar_of_not_stray whole,
        Text.toLower_of_not_ascii (Nat.le_of_not_lt inside)]

/-- On settled characters the two notions of a letter are one. -/
theorem sameForEngine_of_isSettled {a c : Char} (settled : isSettled a) (settled' : isSettled c) :
    sameForEngine a c = Text.sameLetter a c := by
  rw [Bool.eq_iff_iff, sameForEngine, Text.sameLetter, foldCase_of_isSettled settled,
    foldCase_of_isSettled settled', beq_iff_eq, beq_iff_eq, Char.toNat_inj]

/-! ### Both matchers -/

section Like

variable {document : Json} {target : Attribute} {operation : Operation} {value : TypedValue}
  {stored : String}

/-- The operation says which of both answers of the matcher is wanted. -/
theorem bne_notLike_iff (pattern : operation.isPattern) (fits : Bool) :
    (fits != (operation == .notLike)) ↔ (fits ↔ operation = .like) := by
  cases operation with
  | like => cases fits <;> decide
  | notLike => cases fits <;> decide
  | _ => cases pattern

/-- **In memory** a text passes by the letters that are the same up to simple case folding. -/
theorem passes_like (single : target.manyJoin? = none) (pattern : operation.isPattern)
    (found : document.at? target.documentPath = some (.text stored)) :
    (DocumentTest.ofComparison ⟨target, operation, value⟩).passes document ↔
      (Pattern.Matches Text.sameLetter value.patternText.toList stored.toList ↔
        operation = .like) := by
  have read : DocumentTest.valueAt target.documentPath document = .text stored := by
    rw [DocumentTest.valueAt, found]
    rfl
  have matched : (CompiledPattern.ofSource value.patternText).isMatch stored ↔
      Pattern.Matches Text.sameLetter value.patternText.toList stored.toList := by
    rw [CompiledPattern.isMatch_iff, CompiledPattern.source_ofSource]
  rw [passes_ofPattern single pattern, read, ← matched]
  exact bne_notLike_iff pattern _

/-- The condition of a pattern is the test for it at the path of the attribute. -/
theorem ofComparison_like (single : target.manyJoin? = none) (pattern : operation.isPattern) :
    Condition.ofComparison ⟨target, operation, value⟩ =
      .direct target.documentPath (.like (operation == .notLike) value.patternText) := by
  rw [ofComparison_eq_direct single]
  · cases operation with
    | like | notLike => rfl
    | _ => cases pattern
  · intro member
    rw [Operation.isMembership_of_isPattern pattern] at member
    cases member

/-- **In a database** a text without a NUL passes by the letters that are the same for the engine,
with the pattern up to its first NUL. -/
theorem isTrueAt_like (single : target.manyJoin? = none) (pattern : operation.isPattern)
    (plain : '\x00' ∉ stored.toList) :
    (Condition.ofComparison ⟨target, operation, value⟩).isTrueAt
        (Value.documented (some (.text stored))) ↔
      (Pattern.Matches sameForEngine (value.patternText.toList.takeWhile (· ≠ '\x00'))
        stored.toList ↔ operation = .like) := by
  -- without a NUL the engine matches all of the stored text
  have text : (Value.documented (some (.text stored))).patternText? =
      some (stored.toList.map fun c => Value.patternChar c.toNat) := by
    change some (Value.patternChars (stored.toList.map Char.toNat)) = _
    rw [Value.patternChars_pointsOf, takeWhile_of_not_mem plain]
  -- characters are replaced in both texts, so the replaced letters are compared in their place
  have meaning : Pattern.fits (fun a b => a.toLower == b.toLower)
      (Value.patternChars (pointsOf value.patternText))
      (stored.toList.map fun c => Value.patternChar c.toNat) ↔
        Pattern.Matches sameForEngine (value.patternText.toList.takeWhile (· ≠ '\x00'))
          stored.toList := by
    rw [pointsOf, Value.patternChars_pointsOf, Pattern.fits_iff]
    exact Pattern.matches_map (Value.patternChar_eq_iff (by decide))
      (Value.patternChar_eq_iff (by decide))
  rw [ofComparison_like single pattern, Condition.isTrueAt, Test.truth, text, Option.map_some,
    Test.negatedIf, Option.map_some, ← meaning, ← bne_notLike_iff pattern]
  simp only [beq_iff_eq, Option.some.injEq]

/-- An engine that reads the document as documented decides as the condition says, unless the
pattern is too long for it. -/
theorem holds_like (single : target.manyJoin? = none) (pattern : operation.isPattern)
    (reads : ReadsAsDocumented document target.documentPath)
    (short : value.patternText.utf8ByteSize ≤ Test.maxPattern) :
    (Condition.ofComparison ⟨target, operation, value⟩).holds document =
      .ok ((Condition.ofComparison ⟨target, operation, value⟩).isTrueAt
        (Value.documented (document.at? target.documentPath))) := by
  rw [ofComparison_like single pattern, Condition.holds, reads, Test.passes, Condition.isTrueAt]
  refine if_neg ?_
  rw [Test.isTooLong, decide_eq_true_iff]
  exact Nat.not_lt.2 short

end Like

/-- **A pattern in memory and in a database**, where `memory` and `database` say whether a stored
text passes on either side. -/
structure PatternsAgree (operation : Operation) (pattern stored : List Char)
    (memory database : Bool) : Prop where
  /-- In memory the text has to match by simple case folding. -/
  inMemory : memory ↔ (Pattern.Matches Text.sameLetter pattern stored ↔ operation = .like)
  /-- In a database it has to match the pattern up to a NUL by the letters of the engine. -/
  inDatabase : database ↔
    (Pattern.Matches sameForEngine (pattern.takeWhile (· ≠ '\x00')) stored ↔ operation = .like)
  /-- Both agree if no letter of the pattern and character of the text are the same letter for one
  of them only. -/
  agree : '\x00' ∉ pattern →
    (∀ a ∈ pattern, ∀ c ∈ stored, sameForEngine a c = Text.sameLetter a c) → database = memory
  /-- Both agree if ASCII case is all the case there is in the pattern and in the text. -/
  settled : '\x00' ∉ pattern → (∀ c ∈ pattern ++ stored, isSettled c) → database = memory
  /-- If all characters are read as they stand, a database finds nothing that the memory does not
  find. -/
  missed : '\x00' ∉ pattern → (∀ c ∈ pattern ++ stored, Value.isStray c.toNat = false) →
    if operation = .like then database → memory else memory → database

/-- Everything else follows from the meanings of both sides. -/
theorem PatternsAgree.of_meanings {operation : Operation} {pattern stored : List Char}
    {memory database : Bool}
    (inMemory : memory ↔ (Pattern.Matches Text.sameLetter pattern stored ↔ operation = .like))
    (inDatabase : database ↔
      (Pattern.Matches sameForEngine (pattern.takeWhile (· ≠ '\x00')) stored ↔
        operation = .like)) :
    PatternsAgree operation pattern stored memory database := by
  -- where both sides have the same letters, whatever matches on one side matches on the other
  have agree (whole : '\x00' ∉ pattern)
      (same : ∀ a ∈ pattern, ∀ c ∈ stored, sameForEngine a c = Text.sameLetter a c) :
      database = memory := by
    have meaning : Pattern.Matches sameForEngine pattern stored ↔
        Pattern.Matches Text.sameLetter pattern stored := by
      constructor
      · intro matched
        exact matched.mono fun a mem c mem' letters => (same a mem c mem').symm.trans letters
      · intro matched
        exact matched.mono fun a mem c mem' letters => (same a mem c mem').trans letters
    rw [Bool.eq_iff_iff, inDatabase, inMemory, takeWhile_of_not_mem whole, meaning]
  -- a settled character is the same letter on both sides
  refine ⟨inMemory, inDatabase, agree, fun whole settled => agree whole ?_, fun whole stand => ?_⟩
  · intro a mem c mem'
    exact sameForEngine_of_isSettled (settled a (List.mem_append_left _ mem))
      (settled c (List.mem_append_right _ mem'))
  · -- the memory has all letters of the engine, so what matches there matches in memory
    have more (matched : Pattern.Matches sameForEngine pattern stored) :
        Pattern.Matches Text.sameLetter pattern stored :=
      matched.mono fun a mem c mem' => sameLetter_of_sameForEngine
        (stand a (List.mem_append_left _ mem)) (stand c (List.mem_append_right _ mem'))
    rw [inDatabase, inMemory, takeWhile_of_not_mem whole]
    split
    · next like =>
      simp only [like, iff_true]
      exact more
    · next notLike =>
      simp only [notLike, iff_false]
      exact mt more

/-- **Patterns in a database and in memory.** For a stored text without a NUL the two sides differ
in what the same letter is and in where the pattern ends, and in nothing else. An engine that reads
the document as documented decides so, unless the pattern is too long for it. -/
theorem like_agrees {document : Json} {target : Attribute} {operation : Operation}
    {value : TypedValue} {stored : String} (single : target.manyJoin? = none)
    (pattern : operation.isPattern)
    (found : document.at? target.documentPath = some (.text stored))
    (plain : '\x00' ∉ stored.toList) :
    PatternsAgree operation value.patternText.toList stored.toList
      ((DocumentTest.ofComparison ⟨target, operation, value⟩).passes document)
      ((Condition.ofComparison ⟨target, operation, value⟩).isTrueAt
        (Value.documented (document.at? target.documentPath))) ∧
    (ReadsAsDocumented document target.documentPath →
      value.patternText.utf8ByteSize ≤ Test.maxPattern →
        (Condition.ofComparison ⟨target, operation, value⟩).holds document =
          .ok ((Condition.ofComparison ⟨target, operation, value⟩).isTrueAt
            (Value.documented (document.at? target.documentPath)))) := by
  have inDatabase : (Condition.ofComparison ⟨target, operation, value⟩).isTrueAt
        (Value.documented (some (.text stored))) ↔
      (Pattern.Matches sameForEngine (value.patternText.toList.takeWhile (· ≠ '\x00'))
        stored.toList ↔ operation = .like) :=
    isTrueAt_like single pattern plain
  rw [← found] at inDatabase
  exact ⟨.of_meanings (passes_like single pattern found) inDatabase, holds_like single pattern⟩

/-- A field that holds a title. -/
def titleField : Attribute := ⟨"Sample", none, ["title"], ⟨"title", .text⟩⟩

/-- A document with a capital letter outside of ASCII as its title. -/
def capitalSample : Json := .object [("title", .text "É")]

/-- The small letter is found in memory, but not in a database. -/
theorem like_agrees_capital :
    titleField.field.coerceFor .like (.text "é") = .ok (.text "é") ∧
      (DocumentTest.ofComparison ⟨titleField, .like, .text "é"⟩).passes capitalSample = true ∧
      (Condition.ofComparison ⟨titleField, .like, .text "é"⟩).isTrueAt
        (Value.documented (capitalSample.at? titleField.documentPath)) = false ∧
      (Condition.ofComparison ⟨titleField, .like, .text "é"⟩).holds capitalSample = .ok false := by
  have coerced : titleField.field.coerceFor .like (.text "é") = .ok (.text "é") := by cbv
  have plain : '\x00' ∉ "É".toList := by decide
  obtain ⟨⟨inMemory, inDatabase, _⟩, runs⟩ :=
    @like_agrees capitalSample titleField .like (.text "é") "É" rfl rfl rfl plain
  have letters : Pattern.Matches Text.sameLetter "é".toList "É".toList :=
    Pattern.Matches.letter (by decide) (by decide) (by decide +kernel) .nil
  -- the engine folds no letter outside of ASCII
  have others : ¬ Pattern.Matches sameForEngine ("é".toList.takeWhile (· ≠ '\x00')) "É".toList := by
    rw [← Pattern.fits_iff]
    decide +kernel
  have missed := Bool.eq_false_iff.2 (mt inDatabase.1 fun h => others (h.2 rfl))
  exact ⟨coerced, inMemory.2 (iff_of_true letters rfl), missed,
    (runs rfl (by decide +kernel)).trans (congrArg _ missed)⟩

end Database

end EntitySearch
