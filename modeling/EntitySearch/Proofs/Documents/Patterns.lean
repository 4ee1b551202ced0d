import EntitySearch.Pattern
import Mathlib.Data.List.Forall2
import Mathlib.Data.List.Infix

/-!
# What patterns match

`Pattern.Matches` says what a pattern means: the text falls into consecutive pieces, one for each
character of the pattern. `%` takes any piece, `_` a piece of one character, and every other
character a piece of one character that is the same letter.

The matcher keeps the answers for all ends of a text in one list. Read as a function of the end
(`Pattern.meets`), a step of the matcher is one equation for each kind of pattern character
(`Pattern.step_tails`), so behind the start the list is that of all ends at every stage
(`Pattern.answers_eq`), and the start keeps its first entry (`Pattern.fits_iff`). A pattern that is
compiled is an expression with the same pieces, so it matches the same texts
(`CompiledPattern.isMatch_iff`).

The pieces themselves are told by `Pattern.matches_iff_pieces`. A pattern that is put together from
two matches what is put together from two matching texts (`Pattern.matches_append`), and one without
`%` and `_` matches only a text of the same letters (`Pattern.matches_plain`).

Two ways of comparing letters give the same answer wherever they agree on the letters of the pattern
and of the text (`Pattern.Matches.mono`).
-/

namespace EntitySearch

namespace Pattern

variable {same other : Char → Char → Bool}

/-- **A pattern matches a text.** -/
inductive Matches (same : Char → Char → Bool) : List Char → List Char → Prop where
  | nil : Matches same [] []
  | run {pattern rest : List Char} (skipped : List Char) (behind : Matches same pattern rest) :
      Matches same ('%' :: pattern) (skipped ++ rest)
  | one {pattern rest : List Char} (c : Char) (behind : Matches same pattern rest) :
      Matches same ('_' :: pattern) (c :: rest)
  | letter {pattern rest : List Char} {a c : Char} (notRun : a ≠ '%') (notOne : a ≠ '_')
      (letters : same a c) (behind : Matches same pattern rest) :
      Matches same (a :: pattern) (c :: rest)

/-- Whether a text starts with a fitting character and goes on as wanted. -/
def startsWith (fits : Char → Bool) (wanted : List Char → Bool) : List Char → Bool
  | [] => false
  | c :: rest => fits c && wanted rest

/-- Whether a pattern matches a text, by its characters from the left. -/
def meets (same : Char → Char → Bool) : List Char → List Char → Bool
  | [] => List.isEmpty
  | a :: pattern =>
    if a = '%' then fun text => text.tails.any (meets same pattern)
    else startsWith (fun c => a = '_' || same a c) (meets same pattern)

/-- **Looking for a match from the left finds every match.** -/
theorem meets_iff {pattern text : List Char} :
    meets same pattern text ↔ Matches same pattern text := by
  induction pattern generalizing text with
  | nil =>
    rw [meets, List.isEmpty_iff]
    constructor
    · rintro rfl
      exact Matches.nil
    · intro matched
      cases matched
      rfl
  | cons a pattern ih =>
    rw [meets]
    split
    · next isRun =>
      -- a run skips any number of characters, so every end of the text is tried
      subst isRun
      rw [List.any_eq_true]
      constructor
      · rintro ⟨rest, suffix, met⟩
        obtain ⟨skipped, rfl⟩ := (List.mem_tails _ _).1 suffix
        exact Matches.run skipped (ih.1 met)
      · intro matched
        cases matched with
        | run skipped behind =>
          exact ⟨_, (List.mem_tails _ _).2 (List.suffix_append _ _), ih.2 behind⟩
        | letter notRun => exact absurd rfl notRun
    · next notRun =>
      cases text with
      | nil =>
        refine iff_of_false Bool.noConfusion fun matched => ?_
        -- only a run matches nothing
        generalize onNothing : ([] : List Char) = text at matched
        cases matched with
        | run => exact notRun rfl
        | one | letter => cases onNothing
      | cons c rest =>
        -- what is no run takes one character, and the rest of the pattern the rest of the text
        rw [startsWith, Bool.and_eq_true, Bool.or_eq_true, decide_eq_true_iff, ih]
        constructor
        · rintro ⟨isOne | letters, behind⟩
          · subst isOne
            exact Matches.one c behind
          · by_cases isOne : a = '_'
            · subst isOne
              exact Matches.one c behind
            · exact Matches.letter notRun isOne letters behind
        · intro matched
          generalize onText : c :: rest = text at matched
          cases matched with
          | run => exact absurd rfl notRun
          | one d behind =>
            cases onText
            exact ⟨Or.inl rfl, behind⟩
          | letter _ _ letters behind =>
            cases onText
            exact ⟨Or.inr letters, behind⟩

/-! ### The matcher -/

/-- For every end of a text, whether some end of that one is wanted. -/
theorem runFrom_tails (wanted : List Char → Bool) (text : List Char) :
    Regex.runFrom (fun _ => true) text (text.tails.map wanted) =
      text.tails.map fun rest => rest.tails.any wanted := by
  induction text with
  | nil => simp [Regex.runFrom]
  | cons c text ih =>
    rw [List.tails_cons, List.map_cons, List.map_cons, Regex.runFrom, ih]
    -- every text has an end, so there is an answer behind the first one
    have first : (text.tails.map fun rest => rest.tails.any wanted).headD false =
        text.tails.any wanted := by
      cases text <;> rfl
    rw [first, List.tails_cons, List.any_cons, Bool.true_and]

/-- For every end of a text, whether it starts with a fitting character and goes on as wanted. -/
theorem stepOne_tails (fits : Char → Bool) (wanted : List Char → Bool) (text : List Char) :
    Regex.stepOne fits text (text.tails.map wanted) =
      text.tails.map (startsWith fits wanted) := by
  induction text with
  | nil => rfl
  | cons c text ih =>
    rw [List.tails_cons, List.map_cons, List.map_cons, Regex.stepOne, ih, startsWith]
    congr 2
    cases text <;> rfl

/-- The end of an expression is found at the empty end of a text alone. -/
theorem atFinish_replicate (text : List Char) :
    Regex.atFinish (List.replicate (text.length + 1) true) = text.tails.map List.isEmpty := by
  induction text with
  | nil => rfl
  | cons c text ih =>
    rw [List.tails_cons, List.map_cons, ← ih]
    rfl

/-- **One step of the matcher** is one character of the pattern. -/
theorem step_tails (text pattern : List Char) (a : Char) :
    Regex.step same (fun _ => true) text (piece a) (text.tails.map (meets same pattern)) =
      text.tails.map (meets same (a :: pattern)) := by
  rw [piece, meets]
  split
  · exact runFrom_tails _ _
  · split
    · next isOne =>
      simp only [Regex.step, isOne, decide_true, Bool.true_or, stepOne_tails]
    · next notOne =>
      simp only [Regex.step, notOne, decide_false, Bool.false_or, stepOne_tails]

/-- Behind the start, the answers of the matcher are those for all ends of the text. -/
theorem answers_eq (pattern text : List Char) :
    Regex.answers same (fun _ => true) text (pattern.map piece ++ [.finish]) =
      text.tails.map (meets same pattern) := by
  induction pattern with
  | nil => exact atFinish_replicate text
  | cons a pattern ih =>
    rw [← step_tails, ← ih]
    rfl

/-- **The matcher decides whether a pattern matches.** -/
theorem fits_iff {pattern text : List Char} :
    fits same pattern text ↔ Matches same pattern text := by
  have first : fits same pattern text = meets same pattern text := by
    -- of all ends only the whole text is in front of the start
    have started : fits same pattern text =
        (Regex.atStart (text.tails.map (meets same pattern))).any id := by
      rw [← answers_eq]
      rfl
    have others (answers : List Bool) : (answers.map fun _ => false).any id = false := by
      rw [List.any_map, List.any_eq_false]
      exact fun _ _ => Bool.false_ne_true
    rw [started]
    cases text with
    | nil => exact Bool.or_false _
    | cons c text =>
      rw [List.tails_cons, List.map_cons, Regex.atStart, List.any_cons, others, Bool.or_false, id]
  rw [first, meets_iff]

end Pattern

/-- **A compiled pattern matches a text** as the pattern does by simple case folding. -/
theorem CompiledPattern.isMatch_iff {compiled : CompiledPattern} {text : String} :
    compiled.isMatch text ↔
      Pattern.Matches Text.sameLetter compiled.source.toList text.toList := by
  rw [isMatch_eq, Pattern.fits_iff]

/-- The compiled form of a text fits what the text fits by simple case folding. -/
theorem CompiledPattern.isMatch_ofSource (pattern text : String) :
    (ofSource pattern).isMatch text =
      Pattern.fits Text.sameLetter pattern.toList text.toList := by
  rw [isMatch_eq, source_ofSource]

namespace Pattern

/-! ### Pieces -/

/-- **What a pattern character takes** of a text: `%` any piece, `_` one character, and every other
character the same letter. -/
inductive Takes (same : Char → Char → Bool) : Char → List Char → Prop where
  | run (skipped : List Char) : Takes same '%' skipped
  | one (c : Char) : Takes same '_' [c]
  | letter {a c : Char} (notRun : a ≠ '%') (notOne : a ≠ '_') (letters : same a c) :
      Takes same a [c]

/-- What a pattern character takes stands in front of a match. -/
theorem Takes.append {a : Char} {piece pattern rest : List Char} (taken : Takes same a piece)
    (behind : Matches same pattern rest) : Matches same (a :: pattern) (piece ++ rest) := by
  cases taken with
  | run => exact Matches.run piece behind
  | one c => exact Matches.one c behind
  | letter notRun notOne letters => exact Matches.letter notRun notOne letters behind

/-- A match starts with what the first pattern character takes. -/
theorem matches_cons {a : Char} {pattern text : List Char} :
    Matches same (a :: pattern) text ↔
      ∃ piece rest, piece ++ rest = text ∧ Takes same a piece ∧ Matches same pattern rest := by
  constructor
  · intro matched
    cases matched with
    | run skipped behind => exact ⟨skipped, _, rfl, Takes.run skipped, behind⟩
    | one c behind => exact ⟨[c], _, rfl, Takes.one c, behind⟩
    | letter notRun notOne letters behind =>
      exact ⟨[_], _, rfl, Takes.letter notRun notOne letters, behind⟩
  · rintro ⟨piece, rest, rfl, taken, behind⟩
    exact taken.append behind

/-- **A pattern matches exactly the texts that fall into pieces**, one for each of its characters.
-/
theorem matches_iff_pieces {pattern text : List Char} :
    Matches same pattern text ↔
      ∃ pieces : List (List Char),
        pieces.flatten = text ∧ List.Forall₂ (Takes same) pattern pieces := by
  induction pattern generalizing text with
  | nil =>
    constructor
    · intro matched
      cases matched
      exact ⟨[], rfl, List.Forall₂.nil⟩
    · rintro ⟨pieces, rfl, taken⟩
      cases taken
      exact Matches.nil
  | cons a pattern ih =>
    -- the first piece is what the first character takes
    rw [matches_cons]
    constructor
    · rintro ⟨piece, rest, rfl, taken, behind⟩
      obtain ⟨pieces, rfl, others⟩ := ih.1 behind
      exact ⟨piece :: pieces, rfl, List.Forall₂.cons taken others⟩
    · rintro ⟨pieces, rfl, all⟩
      cases all with
      | @cons _ piece _ pieces taken others =>
        exact ⟨piece, pieces.flatten, rfl, taken, ih.2 ⟨pieces, rfl, others⟩⟩

/-- A pattern that is put together from two matches what is put together from two matches. -/
theorem matches_append {first second text : List Char} :
    Matches same (first ++ second) text ↔
      ∃ front rest, front ++ rest = text ∧ Matches same first front ∧ Matches same second rest := by
  induction first generalizing text with
  | nil =>
    constructor
    · intro matched
      exact ⟨[], text, rfl, Matches.nil, matched⟩
    · rintro ⟨front, rest, rfl, nothing, matched⟩
      cases nothing
      exact matched
  | cons a first ih =>
    -- what the first character takes goes to the front of what the first pattern matches
    rw [List.cons_append, matches_cons]
    constructor
    · rintro ⟨piece, rest, rfl, taken, behind⟩
      obtain ⟨front, rest, rfl, firstMatch, secondMatch⟩ := ih.1 behind
      exact ⟨piece ++ front, rest, List.append_assoc _ _ _, taken.append firstMatch, secondMatch⟩
    · rintro ⟨front, rest, rfl, firstMatch, secondMatch⟩
      obtain ⟨piece, front, rfl, taken, behind⟩ := matches_cons.1 firstMatch
      exact ⟨piece, front ++ rest, (List.append_assoc _ _ _).symm, taken,
        ih.2 ⟨front, rest, rfl, behind, secondMatch⟩⟩

/-- The pattern `%` matches every text. -/
theorem matches_any (text : List Char) : Matches same ['%'] text := by
  have matched : Matches same ['%'] (text ++ []) := Matches.run text Matches.nil
  rwa [List.append_nil] at matched

/-- **A pattern without `%` and `_`** matches the texts of the same letters. -/
theorem matches_plain {pattern text : List Char} (noRun : '%' ∉ pattern) (noOne : '_' ∉ pattern) :
    Matches same pattern text ↔ List.Forall₂ (fun a c => same a c) pattern text := by
  induction pattern generalizing text with
  | nil =>
    constructor
    · intro matched
      cases matched
      exact List.Forall₂.nil
    · intro letters
      cases letters
      exact Matches.nil
  | cons a pattern ih =>
    rw [List.mem_cons, not_or] at noRun noOne
    -- neither `%` nor `_` is left, so each character takes a letter
    have notRun : a ≠ '%' := Ne.symm noRun.1
    have notOne : a ≠ '_' := Ne.symm noOne.1
    constructor
    · intro matched
      cases matched with
      | run => exact absurd rfl notRun
      | one => exact absurd rfl notOne
      | letter _ _ letters behind =>
        exact List.Forall₂.cons letters ((ih noRun.2 noOne.2).1 behind)
    · intro letters
      cases letters with
      | cons letters others =>
        exact Matches.letter notRun notOne letters ((ih noRun.2 noOne.2).2 others)

/-! ### Other letters -/

/-- A match stays one where more letters are the same. -/
theorem Matches.mono {pattern text : List Char} (matched : Matches same pattern text)
    (more : ∀ a ∈ pattern, ∀ c ∈ text, same a c → other a c) : Matches other pattern text := by
  induction matched with
  -- every character keeps what it took, and both lists of characters shrink alike
  | nil => exact Matches.nil
  | run skipped behind ih =>
    refine Matches.run skipped (ih fun a mem c mem' => more a ?_ c ?_)
    · exact List.mem_cons_of_mem _ mem
    · exact List.mem_append_right _ mem'
  | one c behind ih =>
    refine Matches.one c (ih fun a mem d mem' => more a ?_ d ?_)
    · exact List.mem_cons_of_mem _ mem
    · exact List.mem_cons_of_mem _ mem'
  | letter notRun notOne letters behind ih =>
    refine Matches.letter notRun notOne ?_ (ih fun a mem d mem' => more a ?_ d ?_)
    · exact more _ List.mem_cons_self _ List.mem_cons_self letters
    · exact List.mem_cons_of_mem _ mem
    · exact List.mem_cons_of_mem _ mem'

/-- A match of replaced characters is a match of the characters themselves, if what replaces them
is neither `%` nor `_`. -/
theorem matches_map {replace : Char → Char} (isRun : ∀ a, replace a = '%' ↔ a = '%')
    (isOne : ∀ a, replace a = '_' ↔ a = '_') {pattern text : List Char} :
    Matches same (pattern.map replace) (text.map replace) ↔
      Matches (fun a c => same (replace a) (replace c)) pattern text := by
  -- the matcher asks of a character only whether it is special and what it is the same as
  rw [← meets_iff, ← meets_iff, ← Bool.eq_iff_iff]
  induction pattern generalizing text with
  | nil => rw [List.map_nil, meets, meets, List.isEmpty_map]
  | cons a pattern ih =>
    rw [List.map_cons, meets, meets]
    simp only [isRun, isOne]
    split
    · change (text.map replace).tails.any _ = text.tails.any _
      rw [List.map_tails, List.any_map]
      exact congrArg (List.any text.tails) (funext fun rest => ih)
    · cases text with
      | nil => rfl
      | cons c text => simp only [List.map_cons, startsWith, ih]

end Pattern

end EntitySearch
