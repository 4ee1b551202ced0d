import EntitySearch.Text.CaseFold

/-!
# Regular expressions

An expression is written as a text, built from it, and then looked for in other texts. Of the syntax
of expressions only this is known here: `^` is the start of a text and `$` its end, `.` is one
character and `.*` any run of characters, a special character behind a backslash stands for itself,
and so does every character that is not special. A text with a special character in any other place
is refused. How large an expression may become is left to the engine.

An expression is matched from its end: each of its pieces turns the list of answers for all ends of
the text into the list for the expression that is one piece longer, so matching takes as many steps
as the product of both lengths.
-/

namespace EntitySearch

/-- **A piece of an expression.** -/
inductive Regex.Piece where
  | start
  | finish
  | run
  | one
  | letter (c : Char)
  deriving DecidableEq, Repr

/-- The flags of an expression: whether letters are compared without their case, and whether a full
stop takes line breaks, too. -/
structure Regex.Flags where
  ignoresCase : Bool := false
  takesLineBreaks : Bool := false
  deriving DecidableEq, Repr

/-- **An expression.** -/
structure Regex where
  pieces : List Regex.Piece
  flags : Regex.Flags
  deriving DecidableEq, Repr

namespace Regex

/-! ### Building -/

/-- The characters that have a meaning of their own in an expression. -/
def specialCharacters : List Char :=
  ['\\', '.', '+', '*', '?', '(', ')', '|', '[', ']', '\x7b', '\x7d', '^', '$', '#', '&', '-', '~']

/-- Whether a character has a meaning of its own in an expression. -/
def isSpecial (c : Char) : Bool := specialCharacters.contains c

/-- A character as it is written to stand for itself. -/
def escaped (c : Char) : List Char := if isSpecial c then ['\\', c] else [c]

/-- Reads the pieces of an expression. -/
def readPieces? : List Char → Option (List Piece)
  | [] => some []
  | '^' :: rest => (readPieces? rest).map (.start :: ·)
  | '$' :: rest => (readPieces? rest).map (.finish :: ·)
  | '.' :: '*' :: rest => (readPieces? rest).map (.run :: ·)
  | '.' :: rest => (readPieces? rest).map (.one :: ·)
  | '\\' :: c :: rest => if isSpecial c then (readPieces? rest).map (.letter c :: ·) else none
  | c :: rest => if isSpecial c then none else (readPieces? rest).map (.letter c :: ·)

/-- **Building an expression** from its text. -/
def build? (flags : Flags) (text : List Char) : Option Regex :=
  (readPieces? text).map fun pieces => ⟨pieces, flags⟩

/-- A special character behind a backslash is read as itself. -/
theorem readPieces?_escaped (c : Char) (rest : List Char) :
    readPieces? (escaped c ++ rest) = (readPieces? rest).map (.letter c :: ·) := by
  rw [escaped]
  split
  · next special => exact if_pos special
  · next plain =>
    -- a character that is read in another way is special
    have other (special : Char) (listed : isSpecial special) : c ≠ special := by
      rintro rfl
      exact plain listed
    rw [List.singleton_append, readPieces?, if_neg plain]
    · exact other '^' rfl
    · exact other '$' rfl
    · exact fun _ isStop _ => other '.' rfl isStop
    · exact other '.' rfl
    · exact fun _ _ isBackslash _ => other '\\' rfl isBackslash

/-! ### Matching -/

/-- The answers for ends of a text that start with a run of fitting characters, from the answers for
the ends behind runs. -/
def runFrom (fits : Char → Bool) : List Char → List Bool → List Bool
  | c :: text, answer :: answers =>
    let later := runFrom fits text answers
    (answer || fits c && later.headD false) :: later
  | _, answers => answers

/-- The answers for ends of a text that start with a fitting character, from the answers for the
ends behind that character. -/
def stepOne (fits : Char → Bool) : List Char → List Bool → List Bool
  | c :: text, _ :: answers => (fits c && answers.headD false) :: stepOne fits text answers
  | _, answers => answers.map fun _ => false

/-- The answer for the whole text alone. -/
def atStart : List Bool → List Bool
  | [] => []
  | answer :: answers => answer :: answers.map fun _ => false

/-- The answer for the empty end of a text alone. -/
def atFinish : List Bool → List Bool
  | [] => []
  | [answer] => [answer]
  | _ :: answers => false :: atFinish answers

section Matcher

variable (same : Char → Char → Bool) (dot : Char → Bool) (text : List Char)

/-- The answers for an expression, from the answers for the expression without its first piece.
Letters are compared by `same`, and a full stop takes the characters of `dot`. -/
def step : Piece → List Bool → List Bool
  | .start => atStart
  | .finish => atFinish
  | .run => runFrom dot text
  | .one => stepOne dot text
  | .letter c => stepOne (same c) text

/-- For every end of a text, the longest first, whether it starts with what the pieces take. The
empty expression is found in front of every end. -/
def answers (pieces : List Piece) : List Bool :=
  pieces.foldr (step same dot text) (List.replicate (text.length + 1) true)

/-- Whether a text has what the pieces take anywhere in it. -/
def occurs (pieces : List Piece) : Bool := (answers same dot text pieces).any id

end Matcher

/-- Whether two characters are one letter. -/
def Flags.sameLetter (flags : Flags) (a c : Char) : Bool :=
  if flags.ignoresCase then Text.sameLetter a c else a == c

/-- Whether a full stop takes a character. -/
def Flags.dotTakes (flags : Flags) (c : Char) : Bool := flags.takesLineBreaks || c != '\n'

/-- **Whether a text matches an expression**, which may start and end anywhere in the text. -/
def isMatch (expression : Regex) (text : List Char) : Bool :=
  occurs expression.flags.sameLetter expression.flags.dotTakes text expression.pieces

end Regex

end EntitySearch
