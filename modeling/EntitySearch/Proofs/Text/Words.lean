import EntitySearch.Text.Ascii
import EntitySearch.Text.Blank
import Mathlib.Data.List.Basic
import Mathlib.Data.List.Induction
import Mathlib.Data.List.TakeWhile

/-!
# Trimming, words and pieces

A tight text has no white space at its ends, and it is what trimming leaves of the text with blanks
around it. The words of a text are read from the left: blanks are passed over, and what stands in
front of the next blank is a word, or the beginning of one when no blank follows. The pieces of a
text are read from the left, too: what has no separator in it is the first piece.
-/

namespace EntitySearch.Text

/-- A text of white space only, which may be empty. -/
def AllBlank (s : List Char) : Prop := ∀ c ∈ s, isBlank c = true

/-- A text without white space. -/
def NoBlank (s : List Char) : Prop := ∀ c ∈ s, isBlank c = false

/-- A text that begins with a character other than white space. -/
def Starts (s : List Char) : Prop := ∃ c, s.head? = some c ∧ isBlank c = false

/-- **A tight text**: it begins and ends with a character that is not white space. -/
structure Tight (s : List Char) : Prop where
  head : Starts s
  last : Starts s.reverse

variable {s t before behind : List Char}

/-- What no white space has, only other characters have. -/
theorem isBlank_eq_false (kind : Char → Bool)
    (none : ∀ point ∈ blankPoints, kind (Char.ofNat point) = false) {c : Char} (h : kind c = true) :
    isBlank c = false := by
  rw [← Bool.not_eq_true]
  intro blank
  have other := none _ (List.contains_iff_mem.1 blank)
  rw [Char.ofNat_toNat, h] at other
  cases other

/-- No digit is white space. -/
theorem isBlank_of_isDigit {c : Char} (digit : c.isDigit) : isBlank c = false :=
  isBlank_eq_false Char.isDigit (by decide +kernel) digit

theorem allBlank_nil : AllBlank [] := fun _ mem => nomatch mem

theorem Starts.append (starts : Starts s) (t : List Char) : Starts (s ++ t) := by
  obtain ⟨c, found, plain⟩ := starts
  exact ⟨c, by rw [List.head?_append, found, Option.some_or], plain⟩

theorem Starts.ne_nil (starts : Starts s) : s ≠ [] := by
  obtain ⟨c, found, _⟩ := starts
  rintro rfl
  cases found

theorem NoBlank.of_all (all : s.all (!isBlank ·) = true) : NoBlank s := fun c mem => by
  simpa using List.all_eq_true.1 all c mem

theorem NoBlank.starts (plain : NoBlank s) (nonempty : s ≠ []) : Starts s :=
  ⟨s.head nonempty, List.head?_eq_some_head nonempty, plain _ (List.head_mem nonempty)⟩

/-! ### Trimming -/

theorem NoBlank.trim (plain : NoBlank s) : trim s = s :=
  trim_of_plain fun c mem => Bool.eq_false_iff.1 (plain c mem)

theorem NoBlank.trimStart (plain : NoBlank s) : trimStart s = s := by
  cases s with
  | nil => rfl
  | cons c s => exact List.dropWhile_cons_of_neg (Bool.eq_false_iff.1 (plain c List.mem_cons_self))

/-- Blanks in front of a character are passed over. -/
theorem dropWhile_isBlank (blank : AllBlank before) (starts : Starts s) :
    (before ++ s).dropWhile isBlank = s := by
  rw [List.dropWhile_append_of_pos blank]
  obtain ⟨c, found, plain⟩ := starts
  cases s with
  | nil => cases found
  | cons d s =>
    obtain rfl := Option.some.inj found
    exact List.dropWhile_cons_of_neg (Bool.eq_false_iff.1 plain)

/-- What is left when white space is taken off begins with another character. -/
theorem starts_of_dropWhile (kept : s.dropWhile isBlank = s) (nonempty : s ≠ []) : Starts s := by
  have plain := List.head?_dropWhile_not isBlank s
  rw [kept] at plain
  cases s with
  | nil => exact absurd rfl nonempty
  | cons c s => exact ⟨c, rfl, plain⟩

theorem trim_append_blank (blank : AllBlank before) (s : List Char) :
    trim (before ++ s) = trim s := by
  rw [trim, trimStart, List.dropWhile_append_of_pos blank, trim, trimStart]

/-- Trimming does not see white space around a text. -/
theorem trim_padded (blank : AllBlank before) (s : List Char) (blank' : AllBlank behind) :
    trim (before ++ (s ++ behind)) = trim s := by
  have turned : AllBlank behind.reverse := fun c mem => blank' c (List.mem_reverse.1 mem)
  rw [trim_append_blank blank, trim, trimStart, List.dropWhile_append, trim, trimStart]
  split
  · next empty =>
    -- nothing but white space is there
    have none : behind.dropWhile isBlank = [] := List.dropWhile_eq_nil_iff.2 blank'
    rw [none, List.isEmpty_iff.1 empty]
  · rw [trimEnd, List.reverse_append, List.dropWhile_append_of_pos turned, trimEnd]

/-- **What taking a blank off either end keeps**, trimming keeps. -/
theorem trim_induction {motive : List Char → Prop}
    (first : ∀ c s, isBlank c = true → motive (c :: s) → motive s)
    (last : ∀ s c, isBlank c = true → motive (s ++ [c]) → motive s) (whole : motive s) :
    motive (trim s) := by
  -- first the blanks in front, then those behind
  have start : motive (trimStart s) := by
    rw [trimStart]
    induction s with
    | nil => exact whole
    | cons c s ih =>
      rw [List.dropWhile_cons]
      split
      · next blank => exact ih (first c s blank whole)
      · exact whole
  rw [trim]
  generalize trimStart s = t at start
  induction t using List.reverseRecOn with
  | nil => exact start
  | append_singleton t c ih =>
    rw [trimEnd, List.reverse_append, List.reverse_singleton, List.singleton_append,
      List.dropWhile_cons]
    split
    · next blank => exact ih (last t c blank start)
    · rw [List.reverse_cons, List.reverse_reverse]
      exact start

/-- **What trimming takes off** is white space in front of what it leaves and behind that. -/
theorem exists_padded (s : List Char) :
    ∃ before behind, AllBlank before ∧ AllBlank behind ∧ s = before ++ (trim s ++ behind) := by
  refine trim_induction
    (motive := fun t => ∃ before behind, AllBlank before ∧ AllBlank behind ∧
      s = before ++ (t ++ behind))
    (fun c t blank padded => ?_) (fun t c blank padded => ?_)
    ⟨[], [], allBlank_nil, allBlank_nil, (List.append_nil s).symm⟩
  · obtain ⟨before, behind, blank', blank'', split⟩ := padded
    refine ⟨before ++ [c], behind, fun d mem => ?_, blank'', by rw [split]; simp⟩
    rcases List.mem_append.1 mem with mem | mem
    · exact blank' d mem
    · exact List.mem_singleton.1 mem ▸ blank
  · obtain ⟨before, behind, blank', blank'', split⟩ := padded
    refine ⟨before, c :: behind, blank', List.forall_mem_cons.2 ⟨blank, blank''⟩, ?_⟩
    rw [split]
    simp

/-- A character that trimming leaves out is white space. -/
theorem mem_trim_of_not_isBlank {c : Char} (mem : c ∈ s) (plain : isBlank c = false) :
    c ∈ trim s := by
  obtain ⟨before, behind, blank, blank', split⟩ := exists_padded s
  have other {t : List Char} (blank : AllBlank t) : c ∉ t := fun mem => by
    rw [blank c mem] at plain
    cases plain
  rw [split, List.mem_append, List.mem_append] at mem
  exact (mem.resolve_left (other blank)).resolve_right (other blank')

/-- Trimming twice is trimming once. -/
theorem trim_trim (s : List Char) : trim (trim s) = trim s := by
  obtain ⟨before, behind, blank, blank', split⟩ := exists_padded s
  conv_rhs => rw [split]
  exact (trim_padded blank (trim s) blank').symm

/-- Trimming leaves the characters that are not white space. -/
theorem trim_ne_nil {c : Char} (mem : c ∈ s) (plain : isBlank c = false) : trim s ≠ [] :=
  List.ne_nil_of_mem (mem_trim_of_not_isBlank mem plain)

theorem trimEnd_sublist (s : List Char) : (trimEnd s).Sublist s := by
  have back := (List.dropWhile_sublist isBlank (l := s.reverse)).reverse
  rwa [List.reverse_reverse] at back

namespace Tight

theorem ne_nil (tight : Tight s) : s ≠ [] := tight.head.ne_nil

theorem of_noBlank (plain : NoBlank s) (nonempty : s ≠ []) : Tight s where
  head := plain.starts nonempty
  last := NoBlank.starts (fun c mem => plain c (List.mem_reverse.1 mem))
    (mt List.reverse_eq_nil_iff.1 nonempty)

theorem singleton {c : Char} (plain : isBlank c = false) : Tight [c] :=
  of_noBlank (List.forall_mem_singleton.2 plain) (List.cons_ne_nil c [])

/-- Whatever stands between two tight texts, the whole is tight. -/
theorem around (first : Tight s) (last : Tight t) (middle : List Char) :
    Tight (s ++ (middle ++ t)) where
  head := first.head.append _
  last := by
    rw [List.reverse_append, List.reverse_append, List.append_assoc]
    exact last.last.append _

/-- **Trimming takes the blanks off** a tight text. -/
theorem trim_append (tight : Tight s) (blank : AllBlank before) (blank' : AllBlank behind) :
    trim (before ++ (s ++ behind)) = s := by
  have turned : AllBlank behind.reverse := fun c mem => blank' c (List.mem_reverse.1 mem)
  rw [trim, trimStart, dropWhile_isBlank blank (tight.head.append behind), trimEnd,
    List.reverse_append, dropWhile_isBlank turned tight.last, List.reverse_reverse]

theorem trim_self (tight : Tight s) : trim s = s := by
  have trimmed := tight.trim_append allBlank_nil allBlank_nil
  rwa [List.nil_append, List.append_nil] at trimmed

/-- A text that trimming leaves alone is tight, unless it is empty. -/
theorem of_trim (kept : trim s = s) (nonempty : s ≠ []) : Tight s := by
  -- nothing is taken off at the end, so nothing can be at the start
  have long : s.length ≤ (trimStart s).length := by
    conv_lhs => rw [← kept]
    exact (trimEnd_sublist (trimStart s)).length_le
  have start : trimStart s = s := (List.dropWhile_sublist isBlank).eq_of_length_le long
  have back : s.reverse.dropWhile isBlank = s.reverse := by
    rw [trim, start] at kept
    conv_rhs => rw [← kept]
    exact (List.reverse_reverse _).symm
  exact ⟨starts_of_dropWhile start nonempty,
    starts_of_dropWhile back (mt List.reverse_eq_nil_iff.1 nonempty)⟩

end Tight

/-! ### Words -/

theorem words_cons_blank {c : Char} (blank : isBlank c = true) (s : List Char) :
    words (c :: s) = words s := by
  cases s with
  | nil => simp [words, blank]
  | cons d s => rw [words, if_pos blank]

/-- Blanks in front of a word are passed over. -/
theorem words_append_blank (blank : AllBlank before) (s : List Char) :
    words (before ++ s) = words s := by
  induction before with
  | nil => rfl
  | cons c before ih =>
    rw [List.cons_append, words_cons_blank (blank c List.mem_cons_self),
      ih fun d mem => blank d (List.mem_cons_of_mem c mem)]

/-- **The beginning of a word** is the beginning of the first word. -/
theorem exists_words_append (plain : NoBlank s) (nonempty : s ≠ []) (t : List Char) :
    ∃ more rest, words (s ++ t) = (s ++ more) :: rest := by
  -- a word ends where the next character is a blank, so two characters are looked at in each step
  induction s with
  | nil => exact absurd rfl nonempty
  | cons c s ih =>
    have plain' : NoBlank s := fun d mem => plain d (List.mem_cons_of_mem c mem)
    have first := Bool.eq_false_iff.1 (plain c List.mem_cons_self)
    cases s with
    | nil =>
      cases t with
      | nil => exact ⟨[], [], by simp [words, first]⟩
      | cons d t =>
        change ∃ more rest, words (c :: d :: t) = (c :: more) :: rest
        rw [words, if_neg first]
        split
        · exact ⟨[], _, rfl⟩
        · cases words (d :: t) with
          | nil => exact ⟨[], [], rfl⟩
          | cons word rest => exact ⟨word, rest, rfl⟩
    | cons d s =>
      obtain ⟨more, rest, found⟩ := ih plain' (List.cons_ne_nil d s)
      have second := Bool.eq_false_iff.1 (plain' d List.mem_cons_self)
      refine ⟨more, rest, ?_⟩
      rw [List.cons_append] at found
      rw [List.cons_append, List.cons_append, words, if_neg first, if_neg second, found]
      rfl

/-- **A word** in front of a blank or the end. -/
theorem words_append_word (plain : NoBlank s) (nonempty : s ≠ [])
    (ends : ∀ c, t.head? = some c → isBlank c = true) : words (s ++ t) = s :: words t := by
  induction s with
  | nil => exact absurd rfl nonempty
  | cons c s ih =>
    have plain' : NoBlank s := fun d mem => plain d (List.mem_cons_of_mem c mem)
    have first := Bool.eq_false_iff.1 (plain c List.mem_cons_self)
    cases s with
    | nil =>
      -- the last character of the word is followed by the end or by a blank
      cases t with
      | nil => simp [words, first]
      | cons d t =>
        change words (c :: d :: t) = _
        rw [words, if_neg first, if_pos (ends d rfl)]
    | cons d s =>
      have second := Bool.eq_false_iff.1 (plain' d List.mem_cons_self)
      have found := ih plain' (List.cons_ne_nil d s)
      rw [List.cons_append] at found
      rw [List.cons_append, List.cons_append, words, if_neg first, if_neg second, found]
      rfl

/-! ### Pieces -/

theorem splitAt_ne_nil (separator : Char) (s : List Char) : splitAt separator s ≠ [] := by
  cases s with
  | nil => exact List.cons_ne_nil _ _
  | cons c s =>
    rw [splitAt]
    split
    · exact List.cons_ne_nil _ _
    · split <;> exact List.cons_ne_nil _ _

theorem splitAt_of_not_mem {separator : Char} (plain : separator ∉ s) :
    splitAt separator s = [s] := by
  induction s with
  | nil => rfl
  | cons c s ih =>
    obtain ⟨other, plain⟩ := not_or.1 (mt List.mem_cons.2 plain)
    rw [splitAt, if_neg (Ne.symm other), ih plain]

/-- What stands in a text is a separator or stands in a piece. -/
theorem exists_mem_splitAt {separator c : Char} (mem : c ∈ s) :
    c = separator ∨ ∃ piece ∈ splitAt separator s, c ∈ piece := by
  induction s with
  | nil => cases mem
  | cons d s ih =>
    rw [splitAt]
    split
    · next same =>
      -- a separator begins a new piece, and any other character joins the first one
      rcases List.mem_cons.1 mem with rfl | mem
      · exact Or.inl same
      · exact (ih mem).imp_right fun ⟨piece, listed, inside⟩ =>
          ⟨piece, List.mem_cons_of_mem _ listed, inside⟩
    · split
      · next none => exact absurd none (splitAt_ne_nil separator s)
      · next first rest pieces =>
        rw [pieces] at ih
        rcases List.mem_cons.1 mem with rfl | mem
        · exact Or.inr ⟨_, List.mem_cons_self, List.mem_cons_self⟩
        · refine (ih mem).imp_right fun ⟨piece, listed, inside⟩ => ?_
          rcases List.mem_cons.1 listed with rfl | listed
          · exact ⟨_, List.mem_cons_self, List.mem_cons_of_mem d inside⟩
          · exact ⟨piece, List.mem_cons_of_mem _ listed, inside⟩

/-- The pieces of a text hold nothing that the text does not hold. -/
theorem mem_of_mem_splitAt {separator c : Char} {piece : List Char}
    (listed : piece ∈ splitAt separator s) (mem : c ∈ piece) : c ∈ s := by
  induction s generalizing piece with
  | nil =>
    obtain rfl := List.mem_singleton.1 listed
    exact mem
  | cons d s ih =>
    rw [splitAt] at listed
    split at listed
    · -- the first piece is empty behind a separator
      rcases List.mem_cons.1 listed with rfl | listed
      · cases mem
      · exact List.mem_cons_of_mem d (ih listed mem)
    · split at listed
      · next none => exact absurd none (splitAt_ne_nil separator s)
      · next first rest pieces =>
        rw [pieces] at ih
        rcases List.mem_cons.1 listed with rfl | listed
        · rcases List.mem_cons.1 mem with rfl | mem
          · exact List.mem_cons_self
          · exact List.mem_cons_of_mem d (ih List.mem_cons_self mem)
        · exact List.mem_cons_of_mem d (ih (List.mem_cons_of_mem first listed) mem)

/-- **The first piece** is what stands in front of the first separator. -/
theorem splitAt_append {separator : Char} (plain : separator ∉ s) (t : List Char) :
    splitAt separator (s ++ separator :: t) = s :: splitAt separator t := by
  induction s with
  | nil => rw [List.nil_append, splitAt, if_pos rfl]
  | cons c s ih =>
    obtain ⟨other, plain⟩ := not_or.1 (mt List.mem_cons.2 plain)
    rw [List.cons_append, splitAt, if_neg (Ne.symm other), ih plain]

end EntitySearch.Text
