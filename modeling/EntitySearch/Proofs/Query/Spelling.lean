import EntitySearch.Proofs.Query.Scanning
import EntitySearch.Proofs.Text.Words
import EntitySearch.Query.Expression
import Mathlib

/-!
# How queries are written

The grammar of written queries, as a relation between an expression and a text. There are many
layouts of one expression: white space around symbols, keywords, parentheses and commas, keywords in
any case, and extra parentheses around terms and around the whole. A text value stands in single
quotes with a backslash in front of every single quote in it, and all other values stand bare.

Not every expression can be written: a text value with a backslash cannot, nor can a group of one
child or an attribute with a blank in its name. `IsWritable` lists what can, and `isWritable_iff`
says that it has all and nothing else.

Every written query is a closed text and tight (`Spells.closed`, `Spells.tight`), which is all that
the scanners of levels have to know about conditions.
-/

namespace EntitySearch.Query

open Text (AllBlank Tight)

/-! ### Characters -/

/-- Whether a character is part of a comparison symbol. -/
def isSymbolChar (c : Char) : Bool := c = '!' || c = '~' || c = '>' || c = '<' || c = '='

/-- Whether no scanner of a query stops at a character. -/
def isMild (c : Char) : Bool := isOrdinary c && !isSymbolChar c

section Characters

variable {c : Char}

theorem isOrdinary_of_isMild (mild : isMild c = true) : isOrdinary c = true :=
  (Bool.and_eq_true_iff.1 mild).1

theorem isSymbolChar_of_isMild (mild : isMild c = true) : isSymbolChar c = false := by
  simpa using (Bool.and_eq_true_iff.1 mild).2

theorem isQuote_of_isMild (mild : isMild c = true) : isQuote c = false :=
  isQuote_of_isOrdinary (isOrdinary_of_isMild mild)

/-- The characters at which some scanner stops. -/
def loudChars : List Char := ['\x27', '\x22', '(', ')', '&', '|', '!', '~', '>', '<', '=']

/-- A kind of characters that has no loud one is mild. -/
theorem isMild_of {kind : Char → Bool} (quiet : loudChars.all (!kind ·) = true)
    (h : kind c = true) : isMild c = true := by
  -- so there are finitely many characters to look at
  have other : c ∉ loudChars := by
    intro loud
    have silent := List.all_eq_true.1 quiet c loud
    rw [h] at silent
    cases silent
  simp only [loudChars, List.mem_cons, List.not_mem_nil, or_false, not_or] at other
  obtain ⟨h1, h2, h3, h4, h5, h6, h7, h8, h9, h10, h11⟩ := other
  simp [isMild, isOrdinary, isQuote, isSymbolChar, Connective.ofSymbol?, h1, h2, h3, h4, h5, h6,
    h7, h8, h9, h10, h11]

theorem isMild_of_isAttributeChar (h : isAttributeChar c = true) : isMild c = true :=
  isMild_of (by decide +kernel) h

theorem isMild_of_isBlank (h : Text.isBlank c = true) : isMild c = true :=
  isMild_of (by decide +kernel) h

/-- No letter or numeral is white space. -/
theorem isBlank_of_isAttributeChar (h : isAttributeChar c = true) : Text.isBlank c = false :=
  Text.isBlank_eq_false isAttributeChar (by decide +kernel) h

theorem isAttributeChar_of_isAlphanum (h : c.isAlphanum = true) : isAttributeChar c = true := by
  have ascii : c.toNat < 128 := by
    simp only [Char.isAlphanum, Char.isAlpha, Char.isUpper, Char.isLower, Char.isDigit,
      Bool.or_eq_true, Bool.and_eq_true, decide_eq_true_eq, UInt32.le_iff_toNat_le] at h
    change c.val.toNat < 128
    rcases h with (⟨_, h⟩ | ⟨_, h⟩) | ⟨_, h⟩
    · exact Nat.lt_of_le_of_lt h (by decide)
    · exact Nat.lt_of_le_of_lt h (by decide)
    · exact Nat.lt_of_le_of_lt h (by decide)
  simp [isAttributeChar, Text.isAlphanumeric, ascii, h]

end Characters

/-! ### Values -/

/-- A character in single quotes: a single quote has a backslash in front. -/
def escape (c : Char) : List Char := if c = '\x27' then ['\\', c] else [c]

/-- **A text in single quotes.** -/
def quote (s : List Char) : List Char := '\x27' :: (s.flatMap escape ++ ['\x27'])

/-- **How the value of a comparison is written.** -/
inductive SpellsValue : Literal → List Char → Prop
  | text {value : String} (plain : '\\' ∉ value.toList) :
      SpellsValue (.text value) (quote value.toList)
  | null {s : List Char} (word : Text.equalsIgnoringCase s "null".toList = true) :
      SpellsValue .null s
  | bool {value : Bool} {s : List Char}
      (word : Text.equalsIgnoringCase s (if value then "true" else "false").toList = true) :
      SpellsValue (.bool value) s
  | integer {n : Int} (fits : Number.isInt64 n = true) :
      SpellsValue (.integer n) (Number.intText n).toList

/-! ### Keywords and lists -/

/-- **How keywords are written**: in any case, with white space in front of each. -/
inductive SpellsWords : List String → List Char → Prop
  | nil : SpellsWords [] []
  | cons {keyword : String} {keywords : List String} {gap word rest : List Char}
      (blank : AllBlank gap) (apart : gap ≠ [])
      (same : Text.equalsIgnoringCase word keyword.toList = true)
      (others : SpellsWords keywords rest) :
      SpellsWords (keyword :: keywords) (gap ++ (word ++ rest))

/-- The keywords of the null checks. -/
def nullChecks : List (List String × Operation) :=
  [(["is", "null"], .isNull), (["is", "not", "null"], .isNotNull)]

/-- The keywords of the membership tests. -/
def memberships : List (List String × Operation) := [(["in"], .oneOf), (["not", "in"], .noneOf)]

/-- A text that may stand in a list of values. -/
structure IsItem (item : List Char) : Prop where
  nonempty : item ≠ []
  trimmed : Text.trim item = item
  plain : ∀ c ∈ item, isQuote c = false ∧ c ≠ '\\'

instance (item : List Char) : Decidable (IsItem item) :=
  decidable_of_iff
    (item ≠ [] ∧ Text.trim item = item ∧ item.all (fun c => !isQuote c && c != '\\') = true)
    ⟨fun h => ⟨h.1, h.2.1, by simpa using h.2.2⟩, fun h => ⟨h.1, h.2, by simpa using h.3⟩⟩

/-- **How a value of a list is written**: between two marks of either kind. -/
inductive SpellsItem : String → List Char → Prop
  | quoted {item : String} {before behind : List Char} {mark : Char} (valid : IsItem item.toList)
      (quote : isQuote mark = true) (blank : AllBlank before) (blank' : AllBlank behind) :
      SpellsItem item (before ++ (mark :: (item.toList ++ mark :: behind)))

/-- **How a list of values is written**: with commas between them. -/
inductive SpellsItems : List Literal → List Char → Prop
  | one {item : String} {s : List Char} (first : SpellsItem item s) : SpellsItems [.text item] s
  | more {item : String} {items : List Literal} {s rest : List Char} (first : SpellsItem item s)
      (others : SpellsItems items rest) : SpellsItems (.text item :: items) (s ++ ',' :: rest)

/-! ### Conditions -/

/-- An attribute that can be read. -/
structure IsPath (path : List Char) : Prop where
  nonempty : path ≠ []
  plain : ∀ c ∈ path, isAttributeChar c = true

instance (path : List Char) : Decidable (IsPath path) :=
  decidable_of_iff (path ≠ [] ∧ path.all isAttributeChar = true)
    ⟨fun h => ⟨h.1, List.all_eq_true.1 h.2⟩, fun h => ⟨h.1, List.all_eq_true.2 h.2⟩⟩

/-- **How a condition is written.** -/
inductive SpellsCondition : Condition → List Char → Prop
  | comparison {path : String} {symbol before behind s : List Char} {operation : Operation}
      {value : Literal} (named : IsPath path.toList) (known : (symbol, operation) ∈ symbols)
      (spelled : SpellsValue value s) (blank : AllBlank before) (blank' : AllBlank behind) :
      SpellsCondition ⟨path, operation, value⟩
        (path.toList ++ (before ++ (symbol ++ (behind ++ s))))
  | nullCheck {path : String} {keywords : List String} {operation : Operation} {s : List Char}
      (named : IsPath path.toList) (known : (keywords, operation) ∈ nullChecks)
      (spelled : SpellsWords keywords s) :
      SpellsCondition ⟨path, operation, .null⟩ (path.toList ++ s)
  | membership {path : String} {keywords : List String} {operation : Operation}
      {items : List Literal} {words gap s : List Char} (named : IsPath path.toList)
      (known : (keywords, operation) ∈ memberships) (spelled : SpellsWords keywords words)
      (blank : AllBlank gap) (listed : SpellsItems items s) :
      SpellsCondition ⟨path, operation, .list items⟩
        (path.toList ++ (words ++ (gap ++ '(' :: (s ++ [')']))))

/-! ### Levels -/

/-- **A part of a query**: a term, which may stand beside a connective, a level, which may stand
between parentheses, or the terms of a level with their connective. -/
inductive Part where
  | term (expression : Expression)
  | level (expression : Expression)
  | terms (connective : Connective) (expressions : List Expression)

/-- **How the parts of a query are written.** A group is a term only in parentheses. -/
inductive Spells : Part → List Char → Prop
  | condition {condition : Condition} {s : List Char} (spelled : SpellsCondition condition s) :
      Spells (.term (.condition condition)) s
  | enclosed {expression : Expression} {before s behind : List Char}
      (inner : Spells (.level expression) s) (blank : AllBlank before) (blank' : AllBlank behind) :
      Spells (.term expression) ('(' :: (before ++ (s ++ behind) ++ [')']))
  | one {connective : Connective} {expression : Expression} {s : List Char}
      (first : Spells (.term expression) s) : Spells (.terms connective [expression]) s
  | more {connective : Connective} {expression : Expression} {expressions : List Expression}
      {s before behind rest : List Char} (first : Spells (.term expression) s)
      (blank : AllBlank before) (blank' : AllBlank behind)
      (others : Spells (.terms connective expressions) rest) :
      Spells (.terms connective (expression :: expressions))
        (s ++ (before ++ connective.symbol :: (behind ++ rest)))
  | term {expression : Expression} {s : List Char} (alone : Spells (.term expression) s) :
      Spells (.level expression) s
  | group {connective : Connective} {expressions : List Expression} {s : List Char}
      (several : 2 ≤ expressions.length) (joined : Spells (.terms connective expressions) s) :
      Spells (.level (.group connective expressions)) s

/-- **How a query is written**: as a level with white space around it. -/
def IsLayout (query : String) (expression : Expression) : Prop :=
  ∃ before s behind, AllBlank before ∧ AllBlank behind ∧ Spells (.level expression) s ∧
    query.toList = before ++ (s ++ behind)

/-! ### Written queries are closed and tight -/

section Closed

variable {joins : Bool} {before s behind : List Char}

theorem Closed.of_mild (mild : ∀ c ∈ s, isMild c = true) : Closed joins s :=
  .of_ordinary fun c mem => isOrdinary_of_isMild (mild c mem)

theorem Closed.of_blank (blank : AllBlank s) : Closed joins s :=
  .of_mild fun c mem => isMild_of_isBlank (blank c mem)

theorem Closed.of_attribute (plain : ∀ c ∈ s, isAttributeChar c = true) : Closed joins s :=
  .of_mild fun c mem => isMild_of_isAttributeChar (plain c mem)

theorem Closed.parentheses (closed : Closed true s) : Closed joins ('(' :: (s ++ [')'])) :=
  .enclosed closed .nil

theorem Closed.padded (closed : Closed joins s) (blank : AllBlank before)
    (blank' : AllBlank behind) : Closed joins (before ++ (s ++ behind)) :=
  (Closed.of_blank blank).append (closed.append (.of_blank blank'))

end Closed

theorem Closed.marks {joins : Bool} {mark : Char} {body : List Char} (quote : isQuote mark = true)
    (inside : Inside mark body) : Closed joins (mark :: (body ++ [mark])) :=
  .quoted quote inside .nil

theorem tight_marks {mark : Char} (quote : isQuote mark = true) (body : List Char) :
    Tight (mark :: (body ++ [mark])) := by
  have plain : Text.isBlank mark = false := by
    rcases isQuote_iff.1 quote with rfl | rfl
    · rfl
    · rfl
  exact (Tight.singleton plain).around (.singleton plain) body

theorem tight_parentheses (s : List Char) : Tight ('(' :: (s ++ [')'])) :=
  (Tight.singleton rfl).around (.singleton rfl) s

theorem noBlank_of_attribute {s : List Char} (plain : ∀ c ∈ s, isAttributeChar c = true) :
    Text.NoBlank s := fun c mem => isBlank_of_isAttributeChar (plain c mem)

/-! ### Keywords -/

/-- A word of letters. -/
def IsWord (keyword : List Char) : Prop :=
  keyword ≠ [] ∧ ∀ c ∈ keyword, c.toLower.isAlpha = true

instance (keyword : List Char) : Decidable (IsWord keyword) :=
  decidable_of_iff (keyword ≠ [] ∧ keyword.all (·.toLower.isAlpha) = true)
    (and_congr_right fun _ => List.all_eq_true)

section Words

variable {keyword word : List Char}

theorem lower_eq (same : Text.equalsIgnoringCase word keyword = true) :
    Text.lower word = Text.lower keyword := beq_iff_eq.1 same

theorem ne_nil_of_word (letters : IsWord keyword)
    (same : Text.equalsIgnoringCase word keyword = true) : word ≠ [] := by
  rintro rfl
  exact letters.1 (List.map_eq_nil_iff.1 (lower_eq same).symm)

/-- A word has letters only, in any case. -/
theorem isAlpha_of_word (letters : IsWord keyword)
    (same : Text.equalsIgnoringCase word keyword = true) : ∀ c ∈ word, c.isAlpha = true := by
  intro c mem
  have lowered : c.toLower ∈ Text.lower keyword := lower_eq same ▸ List.mem_map_of_mem mem
  obtain ⟨d, found, alike⟩ := List.mem_map.1 lowered
  rw [← Char.isAlpha_toLower_eq_isAlpha, ← alike]
  exact letters.2 d found

theorem attribute_of_word (letters : IsWord keyword)
    (same : Text.equalsIgnoringCase word keyword = true) :
    ∀ c ∈ word, isAttributeChar c = true := by
  intro c mem
  refine isAttributeChar_of_isAlphanum ?_
  rw [Char.isAlphanum, isAlpha_of_word letters same c mem, Bool.true_or]

theorem tight_of_word (letters : IsWord keyword)
    (same : Text.equalsIgnoringCase word keyword = true) : Tight word :=
  .of_noBlank (noBlank_of_attribute (attribute_of_word letters same)) (ne_nil_of_word letters same)

end Words

section Keywords

variable {keywords : List String} {s : List Char}

/-- Keywords and the blanks between them are mild. -/
theorem SpellsWords.mild (spelled : SpellsWords keywords s)
    (letters : ∀ keyword ∈ keywords, IsWord keyword.toList) : ∀ c ∈ s, isMild c = true := by
  induction spelled with
  | nil => exact fun c mem => nomatch mem
  | cons blank apart same others ih =>
    obtain ⟨first, rest⟩ := List.forall_mem_cons.1 letters
    intro c mem
    rcases List.mem_append.1 mem with mem | mem
    · exact isMild_of_isBlank (blank c mem)
    · rcases List.mem_append.1 mem with mem | mem
      · exact isMild_of_isAttributeChar (attribute_of_word first same c mem)
      · exact ih rest c mem

/-- There is a blank in front of keywords. -/
theorem SpellsWords.head (spelled : SpellsWords keywords s) (nonempty : keywords ≠ []) :
    s.head?.any Text.isBlank = true := by
  cases spelled with
  | nil => exact absurd rfl nonempty
  | @cons _ _ gap _ _ blank apart _ _ =>
    obtain ⟨c, gap, rfl⟩ := List.exists_cons_of_ne_nil apart
    exact blank c List.mem_cons_self

/-- Keywords end with a word. -/
theorem SpellsWords.last (spelled : SpellsWords keywords s) (nonempty : keywords ≠ [])
    (letters : ∀ keyword ∈ keywords, IsWord keyword.toList) :
    ∃ front word, Tight word ∧ s = front ++ word := by
  induction spelled with
  | nil => exact absurd rfl nonempty
  | @cons keyword keywords gap word rest blank apart same others ih =>
    obtain ⟨first, letters⟩ := List.forall_mem_cons.1 letters
    cases others with
    | nil =>
      rw [List.append_nil]
      exact ⟨gap, word, tight_of_word first same, rfl⟩
    | cons blank' apart' same' others' =>
      obtain ⟨front, last, tight, found⟩ := ih (List.cons_ne_nil _ _) letters
      exact ⟨gap ++ (word ++ front), last, tight, by
        rw [found, List.append_assoc, List.append_assoc]⟩

/-- All keywords are words of letters. -/
theorem isWord_of_keyword {operation : Operation}
    (known : (keywords, operation) ∈ nullChecks ++ memberships) :
    keywords ≠ [] ∧ ∀ keyword ∈ keywords, IsWord keyword.toList := by
  have all : ∀ entry ∈ nullChecks ++ memberships,
      entry.1 ≠ [] ∧ ∀ keyword ∈ entry.1, IsWord keyword.toList := by decide +kernel
  exact all _ known

end Keywords

/-! ### Values and lists -/

section Values

variable {joins : Bool} {s : List Char}

/-- A text in single quotes stands between them. -/
theorem inside_escape {s : List Char} (plain : '\\' ∉ s) : Inside '\x27' (s.flatMap escape) := by
  induction s with
  | nil => exact .nil
  | cons c s ih =>
    have rest := ih fun mem => plain (List.mem_cons_of_mem c mem)
    rw [List.flatMap_cons, escape]
    split
    · exact .escaped rest
    · next other => exact .plain (fun same => plain (same ▸ List.mem_cons_self)) other rest

theorem inside_item (valid : IsItem s) {mark : Char} (quote : isQuote mark = true) :
    Inside mark s := by
  have plain := valid.plain
  clear valid
  induction s with
  | nil => exact .nil
  | cons c s ih =>
    obtain ⟨⟨other, mild⟩, rest⟩ := List.forall_mem_cons.1 plain
    refine .plain mild ?_ (ih rest)
    rintro rfl
    rw [quote] at other
    cases other

/-- The characters of an integer are digits, but for a minus sign in front. -/
theorem mem_intDigits {n : Int} {c : Char} (mem : c ∈ (Number.intText n).toList) :
    c = '-' ∨ c.isDigit = true := by
  rw [Number.intText, String.toList_ofList] at mem
  cases n with
  | ofNat n => exact Or.inr (Number.isDigit_natDigits n c mem)
  | negSucc n =>
    rcases List.mem_cons.1 mem with rfl | mem
    · exact Or.inl rfl
    · exact Or.inr (Number.isDigit_natDigits (n + 1) c mem)

theorem isAttributeChar_of_isDigit {c : Char} (digit : c.isDigit = true) :
    isAttributeChar c = true :=
  isAttributeChar_of_isAlphanum (by rw [Char.isAlphanum, digit, Bool.or_true])

/-- There is no white space in the text of an integer. -/
theorem noBlank_intText (n : Int) : Text.NoBlank (Number.intText n).toList := by
  intro c mem
  rcases mem_intDigits mem with rfl | digit
  · rfl
  · exact isBlank_of_isAttributeChar (isAttributeChar_of_isDigit digit)

/-- A value without quotes has neither blanks nor characters at which a scanner stops. -/
def IsBare (s : List Char) : Prop := s ≠ [] ∧ ∀ c ∈ s, isMild c = true ∧ Text.isBlank c = false

theorem isBare_of_word {keyword : List Char} (letters : IsWord keyword)
    (same : Text.equalsIgnoringCase s keyword = true) : IsBare s := by
  have plain := attribute_of_word letters same
  exact ⟨ne_nil_of_word letters same, fun c mem =>
    ⟨isMild_of_isAttributeChar (plain c mem), isBlank_of_isAttributeChar (plain c mem)⟩⟩

/-- **A value is written** in quotes if it is a text, and bare otherwise. -/
theorem SpellsValue.quoted_or_bare {value : Literal} (spelled : SpellsValue value s) :
    (∃ text : String, value = .text text ∧ '\\' ∉ text.toList ∧ s = quote text.toList) ∨
      IsBare s := by
  cases spelled with
  | text plain => exact Or.inl ⟨_, rfl, plain, rfl⟩
  | null word => exact Or.inr (isBare_of_word (by decide +kernel) word)
  | @bool value _ word =>
    -- the words of booleans have no character that would end a value
    have letters : IsWord (if value then "true" else "false").toList := by
      cases value <;> decide +kernel
    exact Or.inr (isBare_of_word letters word)
  | @integer n fits =>
    refine Or.inr ⟨?_, fun c mem => ?_⟩
    · rw [Number.intText, String.toList_ofList]
      cases n with
      | ofNat n => exact Nat.toDigits_ne_nil
      | negSucc n => exact List.cons_ne_nil _ _
    · rcases mem_intDigits mem with rfl | digit
      · exact ⟨by decide, by decide⟩
      · have plain := isAttributeChar_of_isDigit digit
        exact ⟨isMild_of_isAttributeChar plain, isBlank_of_isAttributeChar plain⟩

theorem SpellsValue.closed {value : Literal} (spelled : SpellsValue value s) : Closed joins s := by
  rcases spelled.quoted_or_bare with ⟨text, _, plain, rfl⟩ | bare
  · exact .marks rfl (inside_escape plain)
  · exact .of_mild fun c mem => (bare.2 c mem).1

theorem SpellsValue.tight {value : Literal} (spelled : SpellsValue value s) : Tight s := by
  rcases spelled.quoted_or_bare with ⟨text, _, plain, rfl⟩ | bare
  · exact tight_marks rfl _
  · exact .of_noBlank (fun c mem => (bare.2 c mem).2) bare.1

theorem SpellsItem.closed {item : String} (spelled : SpellsItem item s) : Closed joins s := by
  obtain ⟨valid, quote, blank, blank'⟩ := spelled
  exact (Closed.of_blank blank).append
    (.quoted quote (inside_item valid quote) (.of_blank blank'))

theorem SpellsItems.closed {items : List Literal} (spelled : SpellsItems items s) :
    Closed joins s := by
  induction spelled with
  | one first => exact first.closed
  | more first _ ih => exact first.closed.append (.ordinary rfl ih)

end Values

/-! ### Conditions -/

section Conditions

variable {condition : Condition} {s : List Char}

/-- The symbols are made of characters of symbols. -/
theorem symbol_of_known {symbol : List Char} {operation : Operation}
    (known : (symbol, operation) ∈ symbols) :
    symbol ≠ [] ∧ ∀ c ∈ symbol, isSymbolChar c = true ∧ isOrdinary c = true ∧
      isAttributeChar c = false ∧ Text.isBlank c = false := by
  have all : ∀ entry ∈ symbols, entry.1 ≠ [] ∧ entry.1.all (fun c => isSymbolChar c &&
      (isOrdinary c && (!isAttributeChar c && !Text.isBlank c))) = true := by
    decide +kernel
  obtain ⟨nonempty, each⟩ := all _ known
  exact ⟨nonempty, by simpa using each⟩

theorem SpellsCondition.closed {joins : Bool} (spelled : SpellsCondition condition s) :
    Closed joins s := by
  cases spelled with
  | comparison named known value blank blank' =>
    have symbol : Closed joins _ := .of_ordinary fun c mem => ((symbol_of_known known).2 c mem).2.1
    exact (Closed.of_attribute named.plain).append ((Closed.of_blank blank).append
      (symbol.append ((Closed.of_blank blank').append value.closed)))
  | nullCheck named known words =>
    have letters := (isWord_of_keyword (List.mem_append_left _ known)).2
    exact (Closed.of_attribute named.plain).append (.of_mild (words.mild letters))
  | membership named known words blank listed =>
    have letters := (isWord_of_keyword (List.mem_append_right _ known)).2
    exact (Closed.of_attribute named.plain).append ((Closed.of_mild (words.mild letters)).append
      ((Closed.of_blank blank).append (.parentheses listed.closed)))

theorem IsPath.tight {path : List Char} (named : IsPath path) : Tight path :=
  .of_noBlank (noBlank_of_attribute named.plain) named.nonempty

/-- What begins with an attribute does not begin with a parenthesis. -/
theorem IsPath.head {path : List Char} (named : IsPath path) (rest : List Char) :
    (path ++ rest).head? ≠ some '(' := by
  obtain ⟨c, path, rfl⟩ := List.exists_cons_of_ne_nil named.nonempty
  intro same
  have plain := named.plain c List.mem_cons_self
  obtain rfl : c = '(' := Option.some.inj same
  cases plain

theorem SpellsCondition.tight (spelled : SpellsCondition condition s) : Tight s := by
  cases spelled with
  | @comparison path symbol before behind s _ _ named known value blank blank' =>
    have tight := named.tight.around value.tight (before ++ (symbol ++ behind))
    simpa only [List.append_assoc] using tight
  | nullCheck named known words =>
    obtain ⟨nonempty, letters⟩ := isWord_of_keyword (List.mem_append_left _ known)
    obtain ⟨front, word, last, rfl⟩ := words.last nonempty letters
    exact named.tight.around last front
  | @membership path _ _ items words gap s named known _ blank listed =>
    have last : Tight [')'] := .singleton rfl
    have tight := named.tight.around last (words ++ (gap ++ '(' :: s))
    simpa only [List.append_assoc, List.cons_append] using tight

/-- A condition does not begin with a parenthesis. -/
theorem SpellsCondition.head (spelled : SpellsCondition condition s) : s.head? ≠ some '(' := by
  have begins : ∃ path rest, IsPath path ∧ s = path ++ rest := by
    cases spelled with
    | comparison named => exact ⟨_, _, named, rfl⟩
    | nullCheck named => exact ⟨_, _, named, rfl⟩
    | membership named => exact ⟨_, _, named, rfl⟩
  obtain ⟨path, rest, named, rfl⟩ := begins
  exact named.head rest

end Conditions

/-! ### Parts of queries -/

section Parts

variable {part : Part} {s : List Char}

/-- Whether plain connectives may stand in a part. -/
def Part.joins : Part → Bool
  | term _ => false
  | level _ | terms .. => true

/-- **A written query is closed.** -/
theorem Spells.closed (spelled : Spells part s) : Closed part.joins s := by
  induction spelled with
  | condition spelled => exact spelled.closed
  | enclosed _ blank blank' ih =>
    exact .parentheses (ih.padded blank blank')
  | one _ ih => exact ih.weaken
  | more _ blank blank' _ ih ih' =>
    exact ih.weaken.append ((Closed.of_blank blank).append
      (.connective ((Closed.of_blank blank').append ih')))
  | term _ ih => exact ih.weaken
  | group _ _ ih => exact ih

/-- **A written query is tight.** -/
theorem Spells.tight (spelled : Spells part s) : Tight s := by
  induction spelled with
  | condition spelled => exact spelled.tight
  | enclosed => exact tight_parentheses _
  | one _ ih => exact ih
  | @more connective _ _ s before behind rest _ _ _ _ ih ih' =>
    have tight := ih.around ih' (before ++ connective.symbol :: behind)
    simpa only [List.append_assoc, List.cons_append] using tight
  | term _ ih => exact ih
  | group _ _ ih => exact ih

end Parts

/-! ### What can be written -/

/-- The values that a comparison can have. -/
def IsWritableValue : Literal → Prop
  | .text value => '\\' ∉ value.toList
  | .integer n => Number.isInt64 n = true
  | .null | .bool _ => True
  | .float _ | .list _ => False

/-- The lists that a membership test can have. -/
def IsWritableList : Literal → Prop
  | .list items =>
    items ≠ [] ∧ ∀ item ∈ items, ∃ text : String, item = .text text ∧ IsItem text.toList
  | _ => False

/-- **The conditions that can be written**. -/
structure Condition.IsWritable (condition : Condition) : Prop where
  path : IsPath condition.path.toList
  value : if condition.operation.isNullCheck then condition.value = .null
    else if condition.operation.isMembership then IsWritableList condition.value
    else IsWritableValue condition.value

/-- **The expressions that can be written**: groups of at least two children and conditions. -/
inductive IsWritable : Expression → Prop
  | condition {condition : Condition} (writable : condition.IsWritable) :
      IsWritable (.condition condition)
  | group {connective : Connective} {children : List Expression} (several : 2 ≤ children.length)
      (each : ∀ child ∈ children, IsWritable child) : IsWritable (.group connective children)

section Writable

theorem isWritableValue_iff {value : Literal} :
    IsWritableValue value ↔ ∃ s, SpellsValue value s := by
  constructor
  · intro writable
    cases value with
    | text value => exact ⟨_, .text writable⟩
    | integer n => exact ⟨_, .integer writable⟩
    | null => exact ⟨"null".toList, .null (by decide)⟩
    | bool value => exact ⟨_, .bool (beq_self_eq_true _)⟩
    | float | list => cases writable
  · rintro ⟨s, spelled⟩
    cases spelled with
    | text plain => exact plain
    | null | bool => trivial
    | integer fits => exact fits

theorem isWritableList_iff {value : Literal} :
    IsWritableList value ↔ ∃ items s, value = .list items ∧ SpellsItems items s := by
  constructor
  · intro writable
    cases value with
    | list items =>
      obtain ⟨nonempty, each⟩ := writable
      suffices spelled : ∃ s, SpellsItems items s by
        obtain ⟨s, spelled⟩ := spelled
        exact ⟨items, s, rfl, spelled⟩
      induction items with
      | nil => exact absurd rfl nonempty
      | cons item items ih =>
        obtain ⟨⟨text, rfl, valid⟩, others⟩ := List.forall_mem_cons.1 each
        have single : isQuote '\x27' = true := rfl
        -- every text that may stand in a list can be written in single quotes without blanks
        have first : SpellsItem text _ :=
          .quoted valid single Text.allBlank_nil Text.allBlank_nil
        cases items with
        | nil => exact ⟨_, .one first⟩
        | cons item items =>
          obtain ⟨s, spelled⟩ := ih (List.cons_ne_nil _ _) others
          exact ⟨_, .more first spelled⟩
    | _ => cases writable
  · rintro ⟨items, s, rfl, spelled⟩
    induction spelled with
    | one first =>
      obtain ⟨valid⟩ := first
      exact ⟨List.cons_ne_nil _ _, List.forall_mem_singleton.2 ⟨_, rfl, valid⟩⟩
    | more first _ ih =>
      obtain ⟨valid⟩ := first
      exact ⟨List.cons_ne_nil _ _, List.forall_mem_cons.2 ⟨⟨_, rfl, valid⟩, ih.2⟩⟩

/-- The keywords with one blank in front of each are a spelling of them. -/
theorem exists_spellsWords (keywords : List String) : ∃ s, SpellsWords keywords s := by
  induction keywords with
  | nil => exact ⟨[], .nil⟩
  | cons keyword keywords ih =>
    obtain ⟨s, spelled⟩ := ih
    have blank : AllBlank [' '] := List.forall_mem_singleton.2 rfl
    exact ⟨_, .cons blank (List.cons_ne_nil _ _) (beq_self_eq_true _) spelled⟩

/-- Every operation has keywords or a symbol, as its kind has it. -/
theorem exists_known (operation : Operation) :
    if operation.isNullCheck then ∃ keywords, (keywords, operation) ∈ nullChecks
    else if operation.isMembership then ∃ keywords, (keywords, operation) ∈ memberships
    else ∃ symbol, (symbol, operation) ∈ symbols := by
  cases operation with
  | isNull => exact ⟨["is", "null"], by decide⟩
  | isNotNull => exact ⟨["is", "not", "null"], by decide⟩
  | oneOf => exact ⟨["in"], by decide⟩
  | noneOf => exact ⟨["not", "in"], by decide⟩
  | equals => exact ⟨['='], by decide⟩
  | notEquals => exact ⟨['!', '='], by decide⟩
  | like => exact ⟨['~'], by decide⟩
  | notLike => exact ⟨['!', '~'], by decide⟩
  | greater => exact ⟨['>'], by decide⟩
  | greaterEqual => exact ⟨['>', '='], by decide⟩
  | less => exact ⟨['<'], by decide⟩
  | lessEqual => exact ⟨['<', '='], by decide⟩

/-- The keywords and the symbols tell of which kind an operation is. -/
theorem kind_of_known :
    (∀ entry ∈ nullChecks, entry.2.isNullCheck = true) ∧
      (∀ entry ∈ memberships, entry.2.isNullCheck = false ∧ entry.2.isMembership = true) ∧
      ∀ entry ∈ symbols, entry.2.isNullCheck = false ∧ entry.2.isMembership = false := by
  decide

theorem Condition.isWritable_iff {condition : Condition} :
    condition.IsWritable ↔ ∃ s, SpellsCondition condition s := by
  constructor
  · rintro ⟨named, value⟩
    obtain ⟨path, operation, literal⟩ := condition
    -- one spelling is enough, with one blank between keywords and none around symbols
    have known := exists_known operation
    dsimp only at value
    split at known
    · next null =>
      rw [if_pos null] at value
      obtain rfl := value
      obtain ⟨keywords, known⟩ := known
      obtain ⟨s, spelled⟩ := exists_spellsWords keywords
      exact ⟨_, .nullCheck named known spelled⟩
    · next ordinary =>
      rw [if_neg ordinary] at value
      split at known
      · next membership =>
        rw [if_pos membership] at value
        obtain ⟨keywords, known⟩ := known
        obtain ⟨items, s, rfl, listed⟩ := isWritableList_iff.1 value
        obtain ⟨words, spelled⟩ := exists_spellsWords keywords
        exact ⟨_, .membership named known spelled Text.allBlank_nil listed⟩
      · next single =>
        rw [if_neg single] at value
        obtain ⟨symbol, known⟩ := known
        obtain ⟨s, spelled⟩ := isWritableValue_iff.1 value
        exact ⟨_, .comparison named known spelled Text.allBlank_nil Text.allBlank_nil⟩
  · rintro ⟨s, spelled⟩
    -- each spelling belongs to operations of one kind
    obtain ⟨nulls, lists, singles⟩ := kind_of_known
    cases spelled with
    | comparison named known spelled =>
      obtain ⟨ordinary, single⟩ := singles _ known
      refine ⟨named, ?_⟩
      dsimp only at ordinary single ⊢
      rw [ordinary, single]
      exact isWritableValue_iff.2 ⟨_, spelled⟩
    | nullCheck named known =>
      exact ⟨named, by rw [nulls _ known, if_pos rfl]⟩
    | membership named known _ _ listed =>
      obtain ⟨ordinary, membership⟩ := lists _ known
      refine ⟨named, ?_⟩
      dsimp only at ordinary membership ⊢
      rw [ordinary, membership]
      exact isWritableList_iff.2 ⟨_, _, rfl, listed⟩

/-- The terms of a level are written one after another. -/
theorem exists_spells_terms {connective : Connective} {expressions : List Expression}
    (nonempty : expressions ≠ [])
    (each : ∀ expression ∈ expressions, ∃ s, Spells (.term expression) s) :
    ∃ s, Spells (.terms connective expressions) s := by
  induction expressions with
  | nil => exact absurd rfl nonempty
  | cons expression expressions ih =>
    obtain ⟨⟨s, first⟩, others⟩ := List.forall_mem_cons.1 each
    cases expressions with
    | nil => exact ⟨s, .one first⟩
    | cons next expressions =>
      obtain ⟨rest, spelled⟩ := ih (List.cons_ne_nil _ _) others
      exact ⟨_, .more first Text.allBlank_nil Text.allBlank_nil spelled⟩

/-- **What can be written** has a layout, and what has a layout can be written. -/
theorem isWritable_iff {expression : Expression} :
    IsWritable expression ↔ ∃ query, IsLayout query expression := by
  constructor
  · intro writable
    have term : ∃ s, Spells (.term expression) s := by
      induction writable with
      | condition writable =>
        obtain ⟨s, spelled⟩ := Condition.isWritable_iff.1 writable
        exact ⟨s, .condition spelled⟩
      | @group connective children several _ ih =>
        have nonempty : children ≠ [] := by
          rintro rfl
          cases several
        obtain ⟨s, joined⟩ : ∃ s, Spells (.terms connective children) s :=
          exists_spells_terms nonempty ih
        exact ⟨_, .enclosed (.group several joined) Text.allBlank_nil Text.allBlank_nil⟩
    obtain ⟨s, spelled⟩ := term
    refine ⟨String.ofList s, [], s, [], Text.allBlank_nil, Text.allBlank_nil, .term spelled, ?_⟩
    rw [String.toList_ofList, List.nil_append, List.append_nil]
  · rintro ⟨query, before, s, behind, _, _, spelled, _⟩
    -- the induction is on the parts of the level, and all expressions in a part can be written
    have writable (part : Part) (s : List Char) (spelled : Spells part s) :
        match part with
        | .term expression | .level expression => IsWritable expression
        | .terms _ expressions => ∀ expression ∈ expressions, IsWritable expression := by
      induction spelled with
      | condition spelled => exact .condition (Condition.isWritable_iff.2 ⟨_, spelled⟩)
      | enclosed _ _ _ ih => exact ih
      | one _ ih => exact List.forall_mem_singleton.2 ih
      | more _ _ _ _ ih ih' => exact List.forall_mem_cons.2 ⟨ih, ih'⟩
      | term _ ih => exact ih
      | group several _ ih => exact .group several ih
    exact writable _ s spelled

end Writable

end EntitySearch.Query
