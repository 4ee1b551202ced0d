/-!
# Gaps

What may stand between the tokens of a JSON text that the engine reads: white space of any kind,
block comments and line comments. A block comment that is not closed is no gap.
-/

namespace EntitySearch.Database

/-- Whether a character is a blank: the ASCII blanks, the space separators of Unicode, the
separators of lines and paragraphs, and the byte order mark. -/
def isBlank (c : Char) : Bool :=
  ('\t' ≤ c && c ≤ '\r') || c = ' ' || c = '\u00A0' || c = '\u1680' ||
    ('\u2000' ≤ c && c ≤ '\u200A') || c = '\u2028' || c = '\u2029' || c = '\u202F' ||
    c = '\u205F' || c = '\u3000' || c = '\uFEFF'

/-- Whether a character ends a line comment. -/
def endsLine (c : Char) : Bool := c = '\n' || c = '\r' || c = '\u2028' || c = '\u2029'

/-- **Where a reader stands in a gap**: outside of comments, in a line comment, or in a block
comment that begins at a text, with or without a star as the last character. -/
inductive Gap where
  | outside
  | line
  | block (start : List Char) (starred : Bool)

/-- The text behind a gap. -/
def Gap.skip : Gap → List Char → List Char
  | outside, '/' :: '*' :: rest => skip (block ('/' :: '*' :: rest) false) rest
  | outside, '/' :: '/' :: rest => skip line rest
  | outside, c :: rest => if isBlank c then skip outside rest else c :: rest
  | line, c :: rest => skip (if endsLine c then outside else line) rest
  | block start starred, c :: rest =>
    skip (if starred && c = '/' then outside else block start (c = '*')) rest
  | block start _, [] => start
  | _, [] => []

/-- **The text behind a leading gap.** -/
def skipGap (s : List Char) : List Char := Gap.outside.skip s

end EntitySearch.Database
