import EntitySearch.Database.Fragment
import Mathlib

/-!
# The tokens of a clause

A text in the language of a database is a list of words and signs. The text falls into pieces, runs
of characters that belong together, and blanks between them count for nothing. A piece `?` is a
place for a parameter: the places take the parameters from left to right, and a text whose places
and parameters differ in number has no tokens (`Fragment.tokens?`).

Fragments are put together as texts. The tokens of the whole are those of its parts wherever the
characters that meet do not belong to one piece (`Fragment.tokens_append`), and the parts keep their
parameters. Signs that always stand alone and blanks (`isBreak`) make it so for clauses in
parentheses and for lists with a separator (`Fragment.tokens_enclosed`,
`Fragment.tokens_separated`).
-/

namespace EntitySearch.Database

/-! ### Pieces -/

/-- Whether a character belongs to a word. A word can have several parts with dots, and a quoted
text without blanks is a word as well. -/
def isWordChar (c : Char) : Bool := c.isAlphanum || c == '_' || c == '.' || c == '$' || c == '\''

/-- Whether a character is part of a sign that can have two characters. -/
def isSignChar (c : Char) : Bool := c == '=' || c == '!' || c == '<' || c == '>' || c == '-'

/-- Whether two neighbours belong to one piece. -/
def joins (a b : Char) : Bool := (isWordChar a && isWordChar b) || (isSignChar a && isSignChar b)

/-- Whether a character is a piece of its own, whatever stands around it. -/
def isBreak (c : Char) : Bool := !isWordChar c && !isSignChar c

/-- **The pieces of a text**, without its blanks. -/
def pieces (text : List Char) : List (List Char) := (text.splitBy joins).filter (· ≠ [' '])

theorem not_joins_left {a : Char} (alone : isBreak a) (b : Char) : joins a b = false := by
  obtain ⟨word, sign⟩ : isWordChar a = false ∧ isSignChar a = false := by
    simpa [isBreak] using alone
  rw [joins, word, sign]
  rfl

theorem not_joins_right (a : Char) {b : Char} (alone : isBreak b) : joins a b = false := by
  obtain ⟨word, sign⟩ : isWordChar b = false ∧ isSignChar b = false := by
    simpa [isBreak] using alone
  rw [joins, word, sign, Bool.and_false, Bool.and_false, Bool.or_false]

/-- Whether the characters at which two texts meet belong to different pieces. -/
def Apart (a b : List Char) : Prop := ∀ x ∈ a.getLast?, ∀ y ∈ b.head?, joins x y = false

/-- A text that ends with a break is apart from every text behind it. -/
theorem apart_of_getLast? {a : List Char} {c : Char} (last : a.getLast? = some c)
    (alone : isBreak c) (b : List Char) : Apart a b := by
  intro x mem y _
  obtain rfl : c = x := Option.some.inj (last.symm.trans mem)
  exact not_joins_left alone y

/-- A text that starts with a break is apart from every text in front of it. -/
theorem apart_of_head? {b : List Char} {c : Char} (first : b.head? = some c) (alone : isBreak c)
    (a : List Char) : Apart a b := by
  intro x _ y mem
  obtain rfl : c = y := Option.some.inj (first.symm.trans mem)
  exact not_joins_right x alone

/-- Texts that are put together start as the first one does. -/
theorem head?_toList_append {a : String} {c : Char} (starts : a.toList.head? = some c)
    (b : String) : (a ++ b).toList.head? = some c := by
  rw [String.toList_append, List.head?_append, starts]
  rfl

theorem pieces_append {a b : List Char} (apart : Apart a b) :
    pieces (a ++ b) = pieces a ++ pieces b := by
  rw [pieces, List.splitBy_append apart, List.filter_append]
  rfl

/-! ### Places -/

/-- **A token**: a word or a sign, or a place with the parameter that it is bound to. -/
inductive Token where
  | word (spelling : String)
  | place (parameter : Parameter)
  deriving DecidableEq, Repr

/-- The tokens of pieces whose places take parameters from left to right, all of them. -/
def bound : List (List Char) → List Parameter → Option (List Token)
  | [], [] => some []
  | [], _ :: _ => none
  | piece :: rest, parameters =>
    if piece = ['?'] then
      match parameters with
      | [] => none
      | first :: others => (bound rest others).map (.place first :: ·)
    else (bound rest parameters).map (.word (String.ofList piece) :: ·)

/-- The parameter of a place. -/
def Token.parameter? : Token → Option Parameter
  | word _ => none
  | place parameter => some parameter

section Bound

variable {a b : List (List Char)} {p q : List Parameter} {s t : List Token}

theorem bound_cons (piece : List Char) (rest : List (List Char)) (parameters : List Parameter) :
    bound (piece :: rest) parameters =
      if piece = ['?'] then
        match parameters with
        | [] => none
        | first :: others => (bound rest others).map (.place first :: ·)
      else (bound rest parameters).map (.word (String.ofList piece) :: ·) := rfl

theorem bound_append (first : bound a p = some s) (second : bound b q = some t) :
    bound (a ++ b) (p ++ q) = some (s ++ t) := by
  induction a generalizing p s with
  | nil =>
    cases p with
    | cons _ _ => cases first
    | nil =>
      obtain rfl := Option.some.inj first
      exact second
  | cons piece rest ih =>
    rw [bound_cons] at first
    rw [List.cons_append, bound_cons]
    -- a place takes the first parameter away, any other piece leaves them all to the rest
    by_cases place : piece = ['?']
    · rw [if_pos place] at first ⊢
      cases p with
      | nil => cases first
      | cons parameter others =>
        obtain ⟨tokens, read, rfl⟩ := Option.map_eq_some_iff.1 first
        exact congrArg (Option.map _) (ih read)
    · rw [if_neg place] at first ⊢
      obtain ⟨tokens, read, rfl⟩ := Option.map_eq_some_iff.1 first
      exact congrArg (Option.map _) (ih read)

/-- There are as many places as parameters, and the places hold them in their order. -/
theorem bound_places (read : bound a p = some s) :
    a.count ['?'] = p.length ∧ s.filterMap Token.parameter? = p := by
  induction a generalizing p s with
  | nil =>
    cases p with
    | cons _ _ => cases read
    | nil =>
      obtain rfl := Option.some.inj read
      exact ⟨rfl, rfl⟩
  | cons piece rest ih =>
    rw [bound_cons] at read
    -- a place counts one and takes one parameter, every other piece neither
    by_cases place : piece = ['?']
    · rw [if_pos place] at read
      cases p with
      | nil => cases read
      | cons parameter others =>
        obtain ⟨tokens, behind, rfl⟩ := Option.map_eq_some_iff.1 read
        obtain ⟨count, held⟩ := ih behind
        refine ⟨?_, congrArg (parameter :: ·) held⟩
        rw [place, List.count_cons_self, count, List.length_cons]
    · rw [if_neg place] at read
      obtain ⟨tokens, behind, rfl⟩ := Option.map_eq_some_iff.1 read
      obtain ⟨count, held⟩ := ih behind
      exact ⟨(List.count_cons_of_ne place).trans count, held⟩

end Bound

/-! ### Tokens of fragments -/

namespace Fragment

/-- **The tokens of a fragment**, if it has as many places as parameters. -/
def tokens? (fragment : Fragment) : Option (List Token) :=
  bound (pieces fragment.text.toList) fragment.parameters

/-- **The number of places** in the text of a fragment. -/
def places (fragment : Fragment) : Nat := (pieces fragment.text.toList).count ['?']

/-- A fragment without parameters. -/
def plain (text : String) : Fragment := ⟨text, []⟩

/-- One fragment behind another. -/
instance : Append Fragment where
  append a b := ⟨a.text ++ b.text, a.parameters ++ b.parameters⟩

/-- Fragments with a text between them. -/
def separated (separator : String) (parts : List Fragment) : Fragment :=
  ⟨Text.joined separator (parts.map Fragment.text), parts.flatMap Fragment.parameters⟩

/-- A fragment in parentheses. -/
def enclosed (fragment : Fragment) : Fragment := plain "(" ++ fragment ++ plain ")"

variable {a b : Fragment} {s t : List Token}

theorem places_eq (read : a.tokens? = some s) : a.places = a.parameters.length :=
  (bound_places read).1

/-- **Tokens of fragments that are put together.** -/
theorem tokens_append (first : a.tokens? = some s) (second : b.tokens? = some t)
    (apart : Apart a.text.toList b.text.toList) : (a ++ b).tokens? = some (s ++ t) := by
  change bound (pieces (a.text ++ b.text).toList) (a.parameters ++ b.parameters) = _
  rw [String.toList_append, pieces_append apart]
  exact bound_append first second

/-- Fragments that are put together start as the first one does. -/
theorem head?_append {c : Char} (starts : a.text.toList.head? = some c) (b : Fragment) :
    (a ++ b).text.toList.head? = some c := head?_toList_append starts b.text

/-- A fragment in parentheses has its tokens between the two signs. -/
theorem tokens_enclosed (read : a.tokens? = some s) :
    a.enclosed.tokens? = some (.word "(" :: (s ++ [.word ")"])) := by
  have opened : (plain "(" ++ a).tokens? = some (.word "(" :: s) :=
    tokens_append (s := [.word "("]) rfl read (apart_of_getLast? (c := '(') rfl rfl _)
  exact tokens_append opened (t := [.word ")"]) rfl (apart_of_head? (c := ')') rfl rfl _)

theorem separated_cons_cons (separator : String) (a b : Fragment) (parts : List Fragment) :
    separated separator (a :: b :: parts) =
      a ++ (plain separator ++ separated separator (b :: parts)) := by
  change Fragment.mk _ _ = Fragment.mk _ _
  congr 1
  change separator.intercalate (a.text :: b.text :: parts.map Fragment.text) = _
  rw [String.intercalate_cons_cons, String.append_assoc]
  rfl

/-- **Fragments with a separator**: a word that starts and ends with a break. -/
theorem tokens_separated {separator : String} {mark : Token} {c d : Char}
    {parts : List Fragment} {tokens : List (List Token)}
    (marked : (plain separator).tokens? = some [mark])
    (starts : separator.toList.head? = some c ∧ isBreak c)
    (ends : separator.toList.getLast? = some d ∧ isBreak d)
    (read : List.Forall₂ (fun part tokens => part.tokens? = some tokens) parts tokens) :
    (separated separator parts).tokens? = some ([mark].intercalate tokens) := by
  induction read with
  | nil => rfl
  | @cons a s parts tokens head tail ih =>
    cases tail with
    | nil =>
      -- one part has no separator behind it
      have single : separated separator [a] = a := by
        change Fragment.mk (separator.intercalate [a.text]) (a.parameters ++ []) = a
        rw [String.intercalate_singleton, List.append_nil]
      rw [single, head, List.intercalate_singleton]
    | @cons b t parts tokens next tail =>
      rw [separated_cons_cons, List.intercalate_cons_cons, List.append_assoc]
      -- the separator is apart from its neighbours on both sides
      have behind : (plain separator ++ separated separator (b :: parts)).tokens? =
          some ([mark] ++ [mark].intercalate (t :: tokens)) :=
        tokens_append marked ih (apart_of_getLast? ends.1 ends.2 _)
      exact tokens_append head behind (apart_of_head? (head?_append starts.1 _) starts.2 _)

end Fragment

end EntitySearch.Database
