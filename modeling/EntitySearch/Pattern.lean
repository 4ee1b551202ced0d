import EntitySearch.Error
import EntitySearch.Regex

/-!
# Patterns

In a pattern `%` stands for any run of characters, `_` for one character, and every other character
for itself up to the case of letters, which the reader of the pattern decides. Nothing is escaped.

A pattern is compiled to an expression that takes a text from its start to its end. It is written
with all special characters of the pattern behind backslashes, and built without regard to the case
of letters and with line breaks as characters like others. An engine may refuse an expression, so
compiling can fail. What is written for a pattern is never refused
(`CompiledPattern.exists_compile`).
-/

namespace EntitySearch

namespace Pattern

/-- What a character of a pattern stands for. -/
def piece (c : Char) : Regex.Piece :=
  if c = '%' then .run else if c = '_' then .one else .letter c

/-- **The pieces of a pattern**, from the start of a text to its end. -/
def pieces (pattern : List Char) : List Regex.Piece :=
  .start :: (pattern.map piece ++ [.finish])

/-- **Whether a pattern fits a text**, with letters compared by `same`. -/
def fits (same : Char → Char → Bool) (pattern text : List Char) : Bool :=
  Regex.occurs same (fun _ => true) text (pieces pattern)

/-- What is written in an expression for a character of a pattern. -/
def written (c : Char) : List Char :=
  if c = '%' then ['.', '*'] else if c = '_' then ['.'] else Regex.escaped c

/-- **The text of the expression** for a pattern. -/
def expressionText (pattern : List Char) : List Char :=
  '^' :: (pattern.flatMap written ++ ['$'])

/-- No quantifier stands in front of what is written for characters. -/
theorem head?_written_ne (pattern : List Char) :
    (pattern.flatMap written ++ ['$']).head? ≠ some '*' := by
  cases pattern with
  | nil => decide
  | cons c pattern =>
    rw [List.flatMap_cons, List.append_assoc]
    by_cases isRun : c = '%'
    · subst isRun
      exact fun first => absurd (Option.some.inj first) (by decide)
    by_cases isOne : c = '_'
    · subst isOne
      exact fun first => absurd (Option.some.inj first) (by decide)
    rw [written, if_neg isRun, if_neg isOne, Regex.escaped]
    split
    · exact fun first => absurd (Option.some.inj first) (by decide)
    · next plain =>
      rintro first
      obtain rfl : c = '*' := Option.some.inj first
      exact plain rfl

/-- **What is written for a pattern is read as its pieces.** -/
theorem readPieces?_expressionText (pattern : List Char) :
    Regex.readPieces? (expressionText pattern) = some (pieces pattern) := by
  have behind : Regex.readPieces? (pattern.flatMap written ++ ['$']) =
      some (pattern.map piece ++ [.finish]) := by
    induction pattern with
    | nil => rfl
    | cons c pattern ih =>
      have apart := head?_written_ne pattern
      rw [List.flatMap_cons, List.append_assoc, List.map_cons, List.cons_append]
      generalize pattern.flatMap written ++ ['$'] = rest at ih apart ⊢
      by_cases isRun : c = '%'
      · subst isRun
        change (Regex.readPieces? rest).map _ = _
        rw [ih]
        rfl
      by_cases isOne : c = '_'
      · subst isOne
        -- the full stop would be read as a run in front of a star
        change Regex.readPieces? ('.' :: rest) = _
        rw [Regex.readPieces?, ih]
        · rfl
        · rintro others rfl
          exact apart rfl
      rw [written, piece, if_neg isRun, if_neg isRun, if_neg isOne, if_neg isOne,
        Regex.readPieces?_escaped, ih]
      rfl
  rw [expressionText, Regex.readPieces?, behind]
  rfl

/-- Patterns are matched without regard to case, and `%` and `_` take line breaks. -/
def flags : Regex.Flags := { ignoresCase := true, takesLineBreaks := true }

/-- **The expression that is built for a pattern.** It is never refused. -/
theorem build?_expressionText (pattern : List Char) :
    Regex.build? flags (expressionText pattern) = some ⟨pieces pattern, flags⟩ := by
  rw [Regex.build?, readPieces?_expressionText, Option.map_some]

end Pattern

/-- **A compiled pattern**: the pattern as given, and the expression that was built for it. -/
structure CompiledPattern where
  source : String
  expression : Regex
  built : Regex.build? Pattern.flags (Pattern.expressionText source.toList) = some expression

namespace CompiledPattern

/-- **Compiling a pattern.** It fails if the expression is refused. -/
def compile (source : String) : Except SearchError CompiledPattern :=
  match built : Regex.build? Pattern.flags (Pattern.expressionText source.toList) with
  | some expression => .ok ⟨source, expression, built⟩
  | none => .error (.pattern source)

/-- **Every pattern can be compiled.** -/
theorem exists_compile (source : String) :
    ∃ compiled, compile source = .ok compiled ∧ compiled.source = source := by
  rw [compile]
  split
  · exact ⟨_, rfl, rfl⟩
  · next refused =>
    rw [Pattern.build?_expressionText] at refused
    cases refused

theorem isSome_compile (source : String) : (compile source).toOption.isSome := by
  obtain ⟨_, compiled, _⟩ := exists_compile source
  rw [compiled]
  rfl

/-- **The compiled form of a pattern.** -/
def ofSource (source : String) : CompiledPattern :=
  (compile source).toOption.get (isSome_compile source)

theorem source_ofSource (source : String) : (ofSource source).source = source := by
  obtain ⟨_, compiled, given⟩ := exists_compile source
  simp only [ofSource, compiled, Except.toOption, Option.get_some, given]

/-- **Whether a text matches a compiled pattern.** -/
def isMatch (compiled : CompiledPattern) (text : String) : Bool :=
  compiled.expression.isMatch text.toList

/-- A compiled pattern fits a text by simple case folding. -/
theorem isMatch_eq (compiled : CompiledPattern) (text : String) :
    compiled.isMatch text =
      Pattern.fits Text.sameLetter compiled.source.toList text.toList := by
  have expression := compiled.built
  rw [Pattern.build?_expressionText] at expression
  rw [isMatch, ← Option.some.inj expression]
  rfl

end CompiledPattern

end EntitySearch
