import EntitySearch.Operation
import EntitySearch.Query.Quoting
import EntitySearch.Text.Blank

/-!
# Levels of parentheses

A query is read level by level. First the parentheses that enclose the whole text are taken off,
then the text is cut at the plain connectives outside all parentheses. The pieces are the next
levels; each is shorter than the text it was cut from, by which the reading of a query ends.
-/

namespace EntitySearch.Query

/-- Whether the parenthesis at the start of a text is closed by its last character. -/
def closesAtEnd : Quoting → Int → List Char → Bool
  | _, _, [] => false
  | state, depth, c :: rest =>
    if state.isPlain c then
      let behind := depthAfter depth c
      if behind = 0 then rest.isEmpty else closesAtEnd (state.next c) behind rest
    else closesAtEnd (state.next c) depth rest

/-- What stands between parentheses that enclose a whole text. -/
def enclosed? : List Char → Option (List Char)
  | [] => none
  | c :: rest =>
    if c = '(' && rest.getLast? == some ')' && closesAtEnd .outside 0 (c :: rest) then
      some rest.dropLast
    else none

theorem length_trim_le (s : List Char) : (Text.trim s).length ≤ s.length :=
  (Text.trim_sublist s).length_le

theorem length_lt_of_enclosed? {s inner : List Char} (h : enclosed? s = some inner) :
    inner.length < s.length := by
  cases s with
  | nil => simp [enclosed?] at h
  | cons c rest =>
    simp only [enclosed?] at h
    split at h
    · obtain rfl := Option.some.inj h
      simp only [List.length_dropLast, List.length_cons]
      omega
    · simp at h

/-- **The text of a level**: without white space around it and without the parentheses that enclose
all of it. -/
def unwrap (s : List Char) : List Char :=
  match _ : enclosed? (Text.trim s) with
  | some inner => unwrap inner
  | none => Text.trim s
  termination_by s.length
  decreasing_by
    have shorter := length_lt_of_enclosed? ‹_›
    have trimmed := length_trim_le s
    omega

theorem length_unwrap_le (s : List Char) : (unwrap s).length ≤ s.length := by
  fun_induction unwrap s with
  | case1 s inner h ih =>
    have := length_lt_of_enclosed? h
    have := length_trim_le s
    omega
  | case2 s h => exact length_trim_le s

/-- **A level cut at its connectives**: the first piece, and each connective with the piece behind
it. -/
structure Pieces where
  first : List Char
  rest : List (Connective × List Char)
  deriving DecidableEq, Repr

namespace Pieces

/-- Puts a character in front of the first piece. -/
def grow (c : Char) (pieces : Pieces) : Pieces := { pieces with first := c :: pieces.first }

/-- Starts a new first piece in front of a connective. -/
def divide (connective : Connective) (pieces : Pieces) : Pieces :=
  ⟨[], (connective, pieces.first) :: pieces.rest⟩

/-- All pieces, in order. -/
def all (pieces : Pieces) : List (List Char) := pieces.first :: pieces.rest.map Prod.snd

/-- The connectives, in order. -/
def connectives (pieces : Pieces) : List Connective := pieces.rest.map Prod.fst

end Pieces

/-- The connective that a character stands for at a depth. -/
def connectiveAt? (state : Quoting) (depth : Int) (c : Char) : Option Connective :=
  if state.isPlain c && depth = 0 then Connective.ofSymbol? c else none

/-- Cuts a text from a state and a depth on at the plain connectives at depth zero. -/
def cutFrom : Quoting → Int → List Char → Pieces
  | _, _, [] => ⟨[], []⟩
  | state, depth, c :: rest =>
    match connectiveAt? state depth c with
    | some connective => (cutFrom (state.next c) depth rest).divide connective
    | none =>
      (cutFrom (state.next c) (if state.isPlain c then depthAfter depth c else depth) rest).grow c

/-- **Cutting a level** at its connectives. -/
def cut (s : List Char) : Pieces := cutFrom .outside 0 s

/-- No piece is longer than the text, and each is shorter if there is a connective. -/
theorem length_cutFrom (state : Quoting) (depth : Int) (s : List Char) :
    (cutFrom state depth s).first.length ≤ s.length ∧
      ∀ piece ∈ (cutFrom state depth s).rest,
        (cutFrom state depth s).first.length < s.length ∧ piece.2.length < s.length := by
  fun_induction cutFrom state depth s with
  | case1 => exact ⟨Nat.le_refl 0, fun piece mem => nomatch mem⟩
  | case2 state depth c rest connective _ ih =>
    have ⟨first, others⟩ := ih
    refine ⟨Nat.zero_le _, fun piece mem => ⟨Nat.succ_pos _, ?_⟩⟩
    rcases List.mem_cons.1 mem with rfl | mem
    · exact Nat.lt_succ_of_le first
    · exact Nat.lt_succ_of_lt (others piece mem).2
  | case3 state depth c rest _ ih =>
    have ⟨first, others⟩ := ih
    refine ⟨Nat.succ_le_succ first, fun piece mem => ?_⟩
    have ⟨short, shorter⟩ := others piece mem
    exact ⟨Nat.succ_lt_succ short, Nat.lt_succ_of_lt shorter⟩

/-- A piece of a text that has been cut is shorter than the text. -/
theorem length_lt_of_mem_cut {s piece : List Char} (cuts : (cut s).rest ≠ [])
    (mem : piece ∈ (cut s).all) : piece.length < s.length := by
  have ⟨_, shorter⟩ := length_cutFrom .outside 0 s
  rcases List.mem_cons.1 mem with rfl | mem
  · obtain ⟨other, others, eq⟩ := List.exists_cons_of_ne_nil cuts
    exact (shorter other (eq ▸ List.mem_cons_self)).1
  · obtain ⟨pair, inRest, rfl⟩ := List.mem_map.1 mem
    exact (shorter pair inRest).2

end EntitySearch.Query
