import EntitySearch.Error

/-!
# Quoting

Reading a query from left to right, a character is plain when it stands outside quotes and is no
quotation mark. Only plain characters act as parentheses, connectives, commas and comparison
symbols. Inside quotes a backslash takes the meaning of the next character away; outside it is an
ordinary character.
-/

namespace EntitySearch.Query

/-- **The state of quoting** in front of a character. -/
inductive Quoting where
  | outside
  | inside (mark : Char)
  | escaped (mark : Char)
  deriving DecidableEq, Repr

/-- Whether a character is a quotation mark. -/
def isQuote (c : Char) : Bool := c = '\x27' || c = '\x22'

theorem isQuote_iff {c : Char} : isQuote c = true ↔ c = '\x27' ∨ c = '\x22' := by
  rw [isQuote, Bool.or_eq_true, decide_eq_true_eq, decide_eq_true_eq]

theorem ne_backslash_of_isQuote {c : Char} (quote : isQuote c = true) : c ≠ '\\' := by
  rintro rfl
  cases quote

namespace Quoting

/-- The state behind a character. -/
def next : Quoting → Char → Quoting
  | outside, c => if isQuote c then inside c else outside
  | inside mark, c => if c = '\\' then escaped mark else if c = mark then outside else inside mark
  | escaped mark, _ => inside mark

/-- Whether a character is plain. -/
def isPlain : Quoting → Char → Bool
  | outside, c => !isQuote c
  | _, _ => false

/-- The state behind a text. -/
def after (state : Quoting) (s : List Char) : Quoting := s.foldl next state

end Quoting

/-- The number of parentheses that are open behind a plain character. -/
def depthAfter (depth : Int) (c : Char) : Int :=
  if c = '(' then depth + 1 else if c = ')' then depth - 1 else depth

/-- Checks quotes and parentheses from a state and a depth on. -/
def checkFrom : Quoting → Int → List Char → Except SyntaxFault Unit
  | state, depth, [] =>
    if state ≠ .outside then .error .unclosedQuote
    else if depth ≠ 0 then .error .unbalancedParentheses
    else .ok ()
  | state, depth, c :: rest =>
    let behind := if state.isPlain c then depthAfter depth c else depth
    if behind < 0 then .error .unbalancedParentheses else checkFrom (state.next c) behind rest

/-- **The structure check**: every parenthesis is closed, none is closed before it is opened, and
every quote is closed. -/
def checkStructure (s : List Char) : Except SyntaxFault Unit := checkFrom .outside 0 s

end EntitySearch.Query
