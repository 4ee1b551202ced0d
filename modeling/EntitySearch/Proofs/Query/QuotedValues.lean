import EntitySearch.Proofs.Query.Reading

/-!
# Quoted values in comparisons and in lists

There are two readers of texts in quotes. Behind a comparison symbol a text in quotes is read as the
characters between the marks (`QuotedText.value`), without the backslashes in front of quotation
marks. In a list every backslash that escapes is left out, and so is every mark of the other kind;
what is kept is trimmed (`QuotedText.kept`), and a value of which nothing is kept does not count.

So the readers differ: a list reads `' x '` as `x`, `"it's"` as `its` and `'a\b'` as `ab`, it
passes over `''`, and it is refused when nothing is kept of any of its values. They agree on the
texts that are settled (`QuotedText.IsSettled`): there is something between the marks, no white
space begins or ends it, and its quotation marks are just the characters behind its backslashes.

A list never keeps more of a text than a comparison (`length_unmask_le`), so what it leaves out can
be told by counting. From this follows that the readers agree on no other texts
(`QuotedText.kept_eq_value_iff`), and the main statement is for whole queries
(`read_quotedValues`).
-/

namespace EntitySearch.Query

open Text (AllBlank Tight)

/-! ### What is kept of the text between two marks -/

section Kept

variable {c : Char} {s : List Char}

/-- Whether the quotation marks of a text are just the characters behind its backslashes. -/
def escapesMarks : List Char → Bool
  | '\\' :: c :: rest => isQuote c && escapesMarks rest
  | c :: rest => !isQuote c && escapesMarks rest
  | [] => true

theorem unescape_of_ne (mild : c ≠ '\\') (s : List Char) :
    unescape (c :: s) = c :: unescape s := by
  rw [unescape]
  exact fun _ _ same => absurd same mild

/-- **A comparison keeps every character**, except for a backslash in front of a quotation mark. -/
theorem unescape_cons (c : Char) (s : List Char) :
    unescape (c :: s) = c :: unescape s ∨
      ∃ mark rest, isQuote mark = true ∧ s = mark :: rest ∧ unescape (c :: s) = unescape s := by
  by_cases mild : c = '\\'
  · subst mild
    cases s with
    | nil => exact Or.inl rfl
    | cons d rest =>
      rw [unescape]
      -- only a mark behind the backslash makes it an escape
      cases quote : isQuote d with
      | false => exact Or.inl rfl
      | true =>
        refine Or.inr ⟨d, rest, quote, rfl, ?_⟩
        exact (unescape_of_ne (ne_backslash_of_isQuote quote) rest).symm
  · exact Or.inl (unescape_of_ne mild s)

theorem length_unescape_le_cons (c : Char) (s : List Char) :
    (unescape s).length ≤ (unescape (c :: s)).length := by
  rcases unescape_cons c s with kept | ⟨_, _, _, _, dropped⟩
  · rw [kept]
    exact Nat.le_succ _
  · rw [dropped]

/-- **A list keeps no more of a text than a comparison.** -/
theorem length_unmask_le (s : List Char) : (unmask s).length ≤ (unescape s).length := by
  fun_induction unmask s with
  | case1 c rest ih =>
    -- a list goes on behind the escaped character; a comparison goes on with it, if it keeps the
    -- backslash
    rcases unescape_cons '\\' (c :: rest) with kept | ⟨mark, _, quote, same, dropped⟩
    · calc
        (c :: unmask rest).length ≤ (unescape rest).length + 1 := Nat.succ_le_succ ih
        _ ≤ (unescape (c :: rest)).length + 1 := Nat.succ_le_succ (length_unescape_le_cons c rest)
        _ = (unescape ('\\' :: c :: rest)).length := by rw [kept, List.length_cons]
    · obtain ⟨rfl, rfl⟩ := List.cons.inj same
      have mild : c ≠ '\\' := ne_backslash_of_isQuote quote
      calc
        (c :: unmask rest).length ≤ (unescape rest).length + 1 := Nat.succ_le_succ ih
        _ = (unescape (c :: rest)).length := by rw [unescape_of_ne mild, List.length_cons]
        _ = (unescape ('\\' :: c :: rest)).length := by rw [dropped]
  | case2 c rest _ _ ih => exact ih.trans (length_unescape_le_cons c rest)
  | case3 c rest alone _ ih =>
    rw [unescape, List.length_cons, List.length_cons]
    · omega
    · exact alone
  | case4 => exact Nat.le_refl 0

/-- With a character in front a comparison keeps more of a text than a list without it. -/
theorem length_unmask_lt (c : Char) (s : List Char) :
    (unmask s).length < (unescape (c :: s)).length := by
  rcases unescape_cons c s with kept | ⟨mark, rest, quote, rfl, dropped⟩
  · rw [kept]
    exact Nat.lt_succ_of_le (length_unmask_le s)
  · -- the backslash is dropped, but the mark behind it is left out of a list
    have mild := ne_backslash_of_isQuote quote
    rw [dropped, unescape_of_ne mild, unmask_cons mild, if_pos quote]
    exact Nat.lt_succ_of_le (length_unmask_le rest)

theorem unescape_ne_nil (nonempty : s ≠ []) : unescape s ≠ [] := by
  obtain ⟨c, s, rfl⟩ := List.exists_cons_of_ne_nil nonempty
  have some := length_unmask_lt c s
  exact List.ne_nil_of_length_pos (by omega)

/-- **A list keeps what a comparison keeps** exactly if all marks are escaped and nothing else is.
-/
theorem unmask_eq_unescape_iff : unmask s = unescape s ↔ escapesMarks s = true := by
  fun_induction escapesMarks s with
  | case1 c rest ih =>
    rw [unmask, unescape]
    cases quote : isQuote c with
    | true => rw [if_pos rfl, List.cons.injEq, and_iff_right rfl, ih, Bool.true_and]
    | false =>
      -- the comparison keeps the backslash
      have shorter := length_unmask_lt c rest
      rw [if_neg Bool.false_ne_true, Bool.false_and]
      refine iff_of_false ?_ Bool.false_ne_true
      intro same
      have lengths := congrArg List.length same
      rw [List.length_cons, List.length_cons] at lengths
      omega
  | case2 c rest alone ih =>
    rw [unmask, unescape]
    · cases quote : isQuote c with
      | true =>
        -- the comparison keeps the mark
        have shorter := length_unmask_le rest
        rw [if_pos rfl, Bool.not_true, Bool.false_and]
        refine iff_of_false ?_ Bool.false_ne_true
        intro same
        have lengths := congrArg List.length same
        rw [List.length_cons] at lengths
        omega
      | false =>
        rw [if_neg Bool.false_ne_true, List.cons.injEq, and_iff_right rfl, ih, Bool.not_false,
          Bool.true_and]
    · exact alone
    · exact alone
  | case3 => exact iff_of_true rfl rfl

end Kept

/-! ### Texts in quotes -/

/-- **A text in quotes**: the mark at its start, and behind it any characters of which none closes
the quotes. -/
structure QuotedText where
  mark : Char
  body : List Char
  quote : isQuote mark = true
  inside : Inside mark body

namespace QuotedText

/-- The characters of the text with its marks. -/
def chars (text : QuotedText) : List Char := text.mark :: (text.body ++ [text.mark])

/-- The text with its marks. -/
def spelling (text : QuotedText) : String := String.ofList text.chars

/-- **What a comparison reads.** -/
def value (text : QuotedText) : String := String.ofList (unescape text.body)

/-- **What a list reads**, if it is not empty. -/
def kept (text : QuotedText) : String := String.ofList (Text.trim (unmask text.body))

/-- **A text that is read alike** in a comparison and in a list. -/
structure IsSettled (text : QuotedText) : Prop where
  nonempty : text.body ≠ []
  escapes : escapesMarks text.body = true
  trimmed : Text.trim (unescape text.body) = unescape text.body

instance (text : QuotedText) : Decidable text.IsSettled :=
  decidable_of_iff (text.body ≠ [] ∧ escapesMarks text.body = true ∧
    Text.trim (unescape text.body) = unescape text.body)
    ⟨fun h => ⟨h.1, h.2.1, h.2.2⟩, fun h => ⟨h.1, h.2, h.3⟩⟩

/-- **The readers agree on a text** that is not empty exactly if it is settled. -/
theorem kept_eq_value_iff {text : QuotedText} :
    text.kept = text.value ∧ text.value ≠ "" ↔ text.IsSettled := by
  rw [kept, value, String.ofList_inj, Ne, String.ofList_eq_empty_iff]
  constructor
  · rintro ⟨same, nonempty⟩
    -- nothing is trimmed off, since the list keeps as much as the comparison
    have long : (unmask text.body).length ≤ (Text.trim (unmask text.body)).length := by
      rw [same]
      exact length_unmask_le text.body
    have whole : Text.trim (unmask text.body) = unmask text.body :=
      (Text.trim_sublist _).eq_of_length_le long
    -- so both readers keep the same, and all escapes are those of marks
    have escapes : unmask text.body = unescape text.body := whole.symm.trans same
    refine ⟨?_, unmask_eq_unescape_iff.1 escapes, ?_⟩
    · intro empty
      rw [empty] at nonempty
      exact nonempty rfl
    · rw [← escapes, whole]
  · rintro ⟨nonempty, escapes, trimmed⟩
    rw [unmask_eq_unescape_iff.2 escapes]
    exact ⟨trimmed, unescape_ne_nil nonempty⟩

/-- The texts that a list has of the texts in it. -/
def listed (texts : List QuotedText) : List String :=
  (texts.map kept).filter fun text => text ≠ ""

/-- **A list has the texts of comparisons** exactly if all its texts are settled. -/
theorem listed_eq_values_iff {texts : List QuotedText} :
    listed texts = texts.map value ↔ ∀ text ∈ texts, text.IsSettled := by
  constructor
  · intro same
    -- as many texts are listed as there are, so none is left out
    have all : ∀ text ∈ texts.map kept, decide (text ≠ "") = true := by
      rw [← List.length_filter_eq_length_iff]
      refine (congrArg List.length same).trans ?_
      rw [List.length_map, List.length_map]
    rw [listed, List.filter_eq_self.2 all, List.map_inj_left] at same
    intro text mem
    have alike := same text mem
    have nonempty : text.kept ≠ "" := of_decide_eq_true (all _ (List.mem_map_of_mem mem))
    exact kept_eq_value_iff.1 ⟨alike, alike ▸ nonempty⟩
  · intro settled
    -- each text is kept as its value, and none of them is empty
    have alike : texts.map kept = texts.map value :=
      List.map_congr_left fun text mem => (kept_eq_value_iff.2 (settled text mem)).1
    rw [listed, alike]
    refine List.filter_eq_self.2 (List.forall_mem_map.2 fun text mem => ?_)
    exact decide_eq_true (kept_eq_value_iff.2 (settled text mem)).2

/-! ### Lists of texts in quotes -/

/-- The texts with commas between them. -/
def joined (texts : List QuotedText) : String := ", ".intercalate (texts.map spelling)

section Joined

variable {before : List Char} {text : QuotedText} {texts : List QuotedText}

theorem closed_chars {joins : Bool} (text : QuotedText) : Closed joins text.chars :=
  .marks text.quote text.inside

theorem toList_joined_singleton (text : QuotedText) : (joined [text]).toList = text.chars := by
  rw [joined, List.map_singleton, String.intercalate_singleton, spelling, String.toList_ofList]

theorem toList_joined_cons_cons (first second : QuotedText) (texts : List QuotedText) :
    (joined (first :: second :: texts)).toList =
      first.chars ++ ',' :: ([' '] ++ (joined (second :: texts)).toList) := by
  have comma : ", ".toList = [',', ' '] := rfl
  rw [joined, List.map_cons, List.map_cons, String.intercalate_cons_cons, String.toList_append,
    String.toList_append, comma, spelling, String.toList_ofList, List.append_assoc]
  rfl

theorem closed_joined {joins : Bool} (texts : List QuotedText) :
    Closed joins (joined texts).toList := by
  induction texts with
  | nil => exact .nil
  | cons text texts ih =>
    cases texts with
    | nil =>
      rw [toList_joined_singleton]
      exact text.closed_chars
    | cons next texts =>
      rw [toList_joined_cons_cons]
      -- a comma and a blank stand between two texts
      exact text.closed_chars.append (.ordinary rfl (.ordinary rfl ih))

/-- A text in quotes is split off a list as what is kept of it. -/
theorem splitValues_chars (text : QuotedText) (rest : List Char) :
    splitValues .outside (text.chars ++ rest) =
      (unmask text.body).foldr growFirst (splitValues .outside rest) := by
  rw [chars, List.cons_append, List.append_assoc]
  exact splitValues_marks text.quote text.inside rest

/-- **A list of texts in quotes is split** into what is kept of each. -/
theorem splitValues_joined (blank : AllBlank before) (text : QuotedText) (texts : List QuotedText) :
    (splitValues .outside (before ++ (joined (text :: texts)).toList)).map Text.trim =
      (text :: texts).map fun text => Text.trim (unmask text.body) := by
  have plain : ∀ c ∈ before, isQuote c = false ∧ c ≠ ',' :=
    fun c mem => isQuote_of_isBlank (blank c mem)
  -- for any blanks in front, since there is one behind each comma
  induction texts generalizing before text with
  | nil =>
    have last : splitValues .outside text.chars = [unmask text.body] := by
      have split := text.splitValues_chars []
      rwa [List.append_nil, splitValues, foldr_growFirst, List.append_nil] at split
    rw [toList_joined_singleton, splitValues_outside plain, last, foldr_growFirst,
      List.map_singleton, Text.trim_append_blank blank]
    rfl
  | cons next texts ih =>
    have one : AllBlank [' '] := List.forall_mem_singleton.2 rfl
    -- the comma ends the first text, and the others follow behind a blank
    have comma (rest : List Char) :
        splitValues .outside (',' :: rest) = [] :: splitValues .outside rest := rfl
    rw [toList_joined_cons_cons, splitValues_outside plain, splitValues_chars,
      comma, foldr_growFirst, foldr_growFirst, List.append_nil, List.map_cons,
      Text.trim_append_blank blank, ih one next fun c mem => isQuote_of_isBlank (one c mem)]
    rfl

/-- **A list of texts in quotes is read** as the texts that are listed, and refused if there are
none. -/
theorem readValues_joined (texts : List QuotedText) :
    readValues (joined texts).toList =
      if listed texts = [] then .error .emptyMembership
      else .ok ((listed texts).map Literal.text) := by
  -- what is empty is decided on lists of characters, before they become texts
  generalize kept_eq : (texts.map fun text => Text.trim (unmask text.body)).filter
    (fun text => !text.isEmpty) = kept
  have split : ((splitValues .outside (joined texts).toList).map Text.trim).filter
      (fun text => !text.isEmpty) = kept := by
    rw [← kept_eq]
    cases texts with
    | nil => rfl
    | cons text texts => exact congrArg _ (splitValues_joined Text.allBlank_nil text texts)
  have nonempty (text : List Char) : decide (String.ofList text ≠ "") = !text.isEmpty := by
    rw [decide_not, decide_eq_decide.2 String.ofList_eq_empty_iff]
    cases text <;> rfl
  have same : listed texts = kept.map String.ofList := calc
    listed texts
      = ((texts.map fun text => Text.trim (unmask text.body)).map String.ofList).filter
          fun text => text ≠ "" := by rw [listed, List.map_map]; rfl
    _ = ((texts.map fun text => Text.trim (unmask text.body)).filter
          fun text => String.ofList text ≠ "").map String.ofList := List.filter_map
    _ = kept.map String.ofList := by
          rw [← kept_eq, List.filter_congr fun text _ => nonempty text]
  rw [readValues, split, same, List.map_map]
  cases kept <;> rfl

end Joined

/-! ### Queries -/

section Queries

variable {path : String} (strict : Bool)

/-- **A comparison with a text in quotes is read** as its value. -/
theorem read_comparison (named : IsPath path.toList) (text : QuotedText) :
    read strict (path ++ " = " ++ text.spelling) =
      .ok (.condition ⟨path, .equals, .text text.value⟩) := by
  have one : AllBlank [' '] := List.forall_mem_singleton.2 rfl
  have known : (['='], Operation.equals) ∈ symbols := by decide
  have hides : Hides text.chars := .marks text.quote text.inside
  have tight : Tight text.chars := tight_marks text.quote text.body
  have value : readValue text.chars = .ok (.text text.value) := readValue_marks text.quote text.body
  rw [spelling, Query.read_comparison named text.closed_chars tight,
    readCondition_comparison named known one one hides tight value, String.ofList_toList]
  rfl

/-- **A membership test over texts in quotes is read** as the texts that are listed. -/
theorem read_membership (named : IsPath path.toList) (texts : List QuotedText) :
    read strict (path ++ " IN (" ++ joined texts ++ ")") =
      if listed texts = [] then .error .emptyMembership
      else .ok (.condition ⟨path, .oneOf, .list ((listed texts).map Literal.text)⟩) := by
  rw [← String.ofList_toList (s := joined texts), Query.read_membership named (closed_joined texts),
    readValues_joined]
  split <;> rfl

end Queries

end QuotedText

/-- **Quoted values in comparisons and in lists.** Every text in quotes is read as its value behind
a comparison symbol. In a list such texts are read in order as what is kept of them, without those
of which nothing is kept, and the list is refused if nothing is kept of any. So the list has the
values that the comparisons have exactly if there are some and all of them are settled. -/
theorem read_quotedValues {path : String} (named : IsPath path.toList) (strict : Bool)
    (texts : List QuotedText) :
    (∀ text : QuotedText, read strict (path ++ " = " ++ text.spelling) =
      .ok (.condition ⟨path, .equals, .text text.value⟩)) ∧
    (read strict (path ++ " IN (" ++ QuotedText.joined texts ++ ")") =
      if QuotedText.listed texts = [] then .error .emptyMembership
      else .ok (.condition ⟨path, .oneOf, .list ((QuotedText.listed texts).map Literal.text)⟩)) ∧
    (read strict (path ++ " IN (" ++ QuotedText.joined texts ++ ")") =
        .ok (.condition
          ⟨path, .oneOf, .list (texts.map fun text => Literal.text text.value)⟩) ↔
      texts ≠ [] ∧ ∀ text ∈ texts, text.IsSettled) := by
  have comparisons (text : QuotedText) : read strict (path ++ " = " ++ text.spelling) =
      .ok (.condition ⟨path, .equals, .text text.value⟩) := text.read_comparison strict named
  have list := QuotedText.read_membership strict named texts
  refine ⟨comparisons, list, ?_⟩
  -- the two lists of values are equal exactly if the texts in them are
  rw [list, ← QuotedText.listed_eq_values_iff]
  split
  · next none =>
    rw [none]
    refine iff_of_false (nomatch ·) ?_
    rintro ⟨some, same⟩
    exact some (List.map_eq_nil_iff.1 same.symm)
  · next some =>
    -- behind a comparison the values are texts of their own, in the same order
    have values : (texts.map fun text => Literal.text text.value) =
        (texts.map QuotedText.value).map Literal.text := List.map_map.symm
    rw [Except.ok.injEq, Expression.condition.injEq, Condition.mk.injEq, and_iff_right rfl,
      and_iff_right rfl, Literal.list.injEq, values,
      List.map_inj_right fun _ _ => Literal.text.inj]
    constructor
    · intro same
      refine ⟨?_, same⟩
      rintro rfl
      exact some rfl
    · exact And.right

/-- A text with a mark of the other kind in it. -/
def mixedText : QuotedText where
  mark := '\x22'
  body := ['i', 't', '\x27', 's']
  quote := rfl
  inside := .plain (by decide) (by decide) (.plain (by decide) (by decide)
    (.plain (by decide) (by decide) (.plain (by decide) (by decide) .nil)))

/-- A text with white space at its ends. -/
def paddedText : QuotedText where
  mark := '\x27'
  body := [' ', 'x', ' ']
  quote := rfl
  inside := .plain (by decide) (by decide) (.plain (by decide) (by decide)
    (.plain (by decide) (by decide) .nil))

/-- A text with an escaped mark in it. -/
def escapedText : QuotedText where
  mark := '\x27'
  body := ['i', 't', '\\', '\x27', 's']
  quote := rfl
  inside := .plain (by decide) (by decide) (.plain (by decide) (by decide)
    (.escaped (.plain (by decide) (by decide) .nil)))

/-- A list loses the mark and the white space that a comparison keeps, but not an escaped mark. -/
theorem read_quotedValues_its :
    IsPath "a".toList ∧
      read true "a = \"it's\"" = .ok (.condition ⟨"a", .equals, .text "it's"⟩) ∧
      read true "a IN (\"it's\", ' x ')" =
        .ok (.condition ⟨"a", .oneOf, .list [.text "its", .text "x"]⟩) ∧
      read true "a IN ('it\\'s')" = .ok (.condition ⟨"a", .oneOf, .list [.text "it's"]⟩) := by
  have named : IsPath "a".toList := by decide +kernel
  obtain ⟨comparisons, list, _⟩ := read_quotedValues named true [mixedText, paddedText]
  obtain ⟨_, _, agree⟩ := read_quotedValues named true [escapedText]
  have kept : QuotedText.listed [mixedText, paddedText] = ["its", "x"] := by decide +kernel
  have settled : escapedText.IsSettled := by decide +kernel
  have single := agree.2 ⟨List.cons_ne_nil _ _, List.forall_mem_singleton.2 settled⟩
  rw [kept] at list
  refine ⟨named, ?_, ?_, ?_⟩
  · exact comparisons mixedText
  · exact list
  · exact single

end EntitySearch.Query
