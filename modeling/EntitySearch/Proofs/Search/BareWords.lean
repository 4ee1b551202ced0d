import EntitySearch.Proofs.Documents.Nulls
import EntitySearch.Proofs.Metadata.Resolving
import EntitySearch.Proofs.Query.BareWords
import EntitySearch.Proofs.Search.Query
import EntitySearch.Proofs.Text.Uuids

/-!
# Searching for bare words

A word without quotes can be compared with (`weight = 1.50`) and listed (`weight IN (1.50)`). In a
list it is a text, and behind the symbol what is recognised in it, of which conversion sees the text
(`wordText`). So both searches convert a text to the type of the field: one that of the word, the
other the word itself.

Whether they find the same is a question about the type. `FieldType.place?` is what a type makes of
a text as far as comparisons tell, and `FieldType.Keeps` says for each type when it makes the same
of a word and of its text (`place?_iff_keeps`). Booleans, doubles, dates and times always do, which
for doubles rests on the text of a double being read as the double again. Integers and decimals
differ on some numbers with a point, and to texts, constants and UUIDs all characters matter.

Values of one place are found in the same documents, and values of two places are told apart by some
document (`passes_iff_place`). From the text of a query to what it finds this is
`sameMatches_iff_keeps`, for every attribute that resolves, and a field resolves by its name.
-/

namespace EntitySearch

/-! ### What types make of texts -/

namespace FieldType

/-- **What a type makes of a text**, as far as comparisons tell: nothing if the text is not
converted, and otherwise the place of the value, of which null has none. -/
def place? (type : FieldType) (text : String) : Option (Option (NumberLine ⊕ₗ String)) :=
  (type.valueOf? text).map fun value => value.scalar?.map Scalar.place

open Query (wordText bareValue IsBareWord Recognises)

/-- **Whether a type makes the same of a word and of its text.** Booleans, doubles, dates and times
always do. An integer is no number with a point, but may be the text of one, and a decimal keeps
places that a double does not. To texts, names of constants and UUIDs all characters matter. -/
def Keeps (type : FieldType) (w : String) : Prop :=
  match type with
  | .text => wordText w = w
  | .enumeration constants => wordText w = w ∨ wordText w ∉ constants ∧ w ∉ constants
  | .uuid => Uuid.read? (wordText w).toList = Uuid.read? w.toList
  | .integer => ∀ x, bareValue w.toList = .float x →
      Number.readInt? Number.minInt32 Number.maxInt32 x.plain.toList = none
  | .long => ∀ x, bareValue w.toList = .float x →
      Number.readInt? Number.minInt64 Number.maxInt64 x.plain.toList = none
  | .decimal => ∀ x, bareValue w.toList = .float x →
      (Decimal.read? x.plain.toList).map (·.toDouble.extent) =
        (Decimal.read? w.toList).map (·.toDouble.extent)
  | _ => True

section Types

variable {type : FieldType} {text w t : String} {literal : Literal}

/-- The place of a real. -/
abbrev realPlace (x : Double) : Option (NumberLine ⊕ₗ String) := some (Sum.inlₗ x.extent)

/-- The place of an integer. -/
abbrev integerPlace (n : Int) : Option (NumberLine ⊕ₗ String) :=
  some (Sum.inlₗ (.ofUnits (n * Double.one)))

/-- The place of a text. -/
abbrev textPlace (s : String) : Option (NumberLine ⊕ₗ String) := some (Sum.inrₗ s)

/-- A text without white space is not trimmed for any type. -/
theorem place?_eq (plain : Text.NoBlank text.toList) (type : FieldType) :
    type.place? text =
      match type with
      | .text => some (textPlace text)
      | .integer => (Number.readInt? Number.minInt32 Number.maxInt32 text.toList).map integerPlace
      | .long => (Number.readInt? Number.minInt64 Number.maxInt64 text.toList).map integerPlace
      | .double => (Double.read? text.toList).map realPlace
      | .decimal => (Decimal.read? text.toList).map fun d => realPlace d.toDouble
      | .boolean => (boolOfWord? text.toList).map fun b => integerPlace (if b then 1 else 0)
      | .uuid => (Uuid.read? text.toList).map fun id => textPlace id.text
      | .date => (Calendar.readDate? text.toList).map fun d => textPlace d.text
      | .dateTime => (Calendar.readDateTime? text.toList).map fun d => textPlace d.text
      | .enumeration constants => some (if text ∈ constants then textPlace text else none)
      | .embedded _ | .relation .. => none := by
  unfold place? valueOf?
  rw [plain.trim]
  simp only [String.ofList_toList]
  cases type with
  | text | embedded | relation => rfl
  | enumeration constants =>
    dsimp only
    by_cases known : text ∈ constants
    · simp only [List.contains_iff_mem.2 known, known, ↓reduceIte]
      rfl
    · have unknown : constants.contains text = false := by simpa using known
      simp only [unknown, known, Bool.false_eq_true, ↓reduceIte]
      rfl
  | _ => exact Option.map_map _ _ _

end Types

end FieldType

namespace Query.Recognises

variable {w t : String} {literal : Literal} (recognises : Recognises w literal t)
include recognises

/-- **A word and its text** are the same, or spell one boolean, or numbers of one place. -/
theorem same_or_alike :
    t = w ∨ (∃ b, boolOfWord? t.toList = some b ∧ boolOfWord? w.toList = some b) ∨
      ∃ x y, Double.read? t.toList = some x ∧ Double.read? w.toList = some y ∧
        x.extent = y.extent ∧ x ≠ .nan ∧ y ≠ .nan := by
  cases recognises with
  | text => exact Or.inl rfl
  | @bool b word => exact Or.inr (Or.inl ⟨b, by cases b <;> rfl, word⟩)
  | @integer n read =>
    -- the word and the digits of its integer denote one number
    have text := Number.denotes_intDigits n
    have word := Number.denotes_of_readInt? read
    have same := Double.read?_congr text word
    obtain ⟨_, _, numeral, -⟩ := text
    obtain ⟨_, _, numeral', -⟩ := word
    have found := Double.read?_numeral numeral
    have found' := Double.read?_numeral numeral'
    rw [found, found'] at same
    rw [Number.intText, String.toList_ofList]
    exact Or.inr (Or.inr ⟨_, _, found, found', Option.some.inj same,
      Double.ofScientific_ne_nan _ _ _, Double.ofScientific_ne_nan _ _ _⟩)
  | @float x point read =>
    -- the text of a double reads back as that double
    have number : x ≠ .nan := by
      rintro rfl
      exact Double.read?_ne_nan point read
    exact Or.inr (Or.inr ⟨x, x, Double.read?_plain (Double.isDouble_of_read? read), read, rfl,
      number, number⟩)

/-- A word that is not its own text is no NaN, and its text is none. -/
theorem same_or_nan :
    t = w ∨ Double.read? t.toList ≠ some .nan ∧ Double.read? w.toList ≠ some .nan := by
  rcases recognises.same_or_alike with same | ⟨b, text, word⟩ | ⟨x, y, text, word, -, nan, nan'⟩
  · exact Or.inl same
  · rw [Double.read?_of_boolOfWord? text, Double.read?_of_boolOfWord? word]
    exact Or.inr ⟨nofun, nofun⟩
  · rw [text, word]
    exact Or.inr ⟨fun same => nan (Option.some.inj same), fun same => nan' (Option.some.inj same)⟩

/-- **Readers of booleans, doubles, dates and times** make the same of a word and of its text. -/
theorem read_alike (plain : Text.NoBlank w.toList) :
    boolOfWord? t.toList = boolOfWord? w.toList ∧
      (Double.read? t.toList).map Double.extent = (Double.read? w.toList).map Double.extent ∧
        Calendar.readDate? t.toList = Calendar.readDate? w.toList ∧
          Calendar.readDateTime? t.toList = Calendar.readDateTime? w.toList := by
  -- what is a boolean or a number is no date
  have dates {s : String} (plain : Text.NoBlank s.toList)
      (other : (Number.behindDigits s.toList).head? ≠ some '-') :
      Calendar.readDate? s.toList = none ∧ Calendar.readDateTime? s.toList = none :=
    ⟨Calendar.readDate?_eq_none plain.trimStart other,
      Calendar.readDateTime?_eq_none plain.trimStart other⟩
  have plain' := recognises.noBlank plain
  rcases recognises.same_or_alike with rfl | ⟨b, text, word⟩ | ⟨x, y, text, word, same, -, -⟩
  · exact ⟨rfl, rfl, rfl, rfl⟩
  · obtain ⟨date, time⟩ := dates plain (head?_behindDigits_of_boolOfWord? word)
    obtain ⟨date', time'⟩ := dates plain' (head?_behindDigits_of_boolOfWord? text)
    rw [text, word, Double.read?_of_boolOfWord? text, Double.read?_of_boolOfWord? word, date, date',
      time, time']
    exact ⟨rfl, rfl, rfl, rfl⟩
  · obtain ⟨date, time⟩ := dates plain (Double.head?_behindDigits word)
    obtain ⟨date', time'⟩ := dates plain' (Double.head?_behindDigits text)
    rw [boolOfWord?_of_read? text, boolOfWord?_of_read? word, text, word, date, date', time, time']
    exact ⟨rfl, congrArg some same, rfl, rfl⟩

/-- **What only numbers with a point can tell apart**: all other words are their text, or spell the
same boolean or the same integer. -/
theorem iff_forall_float {same : Prop} {matters : Double → Prop} (text : t = w → same)
    (bool : ∀ b, boolOfWord? t.toList = some b → boolOfWord? w.toList = some b → same)
    (integer : ∀ n, t.toList = Number.intDigits n →
      Number.readInt? Number.minInt64 Number.maxInt64 w.toList = some n → same)
    (float : ∀ x : Double, '.' ∈ w.toList → t = x.plain → (same ↔ matters x)) :
    same ↔ ∀ x, literal = .float x → matters x := by
  -- where the literal is no double, both sides hold
  have other (holds : same) (none : ∀ x, literal ≠ .float x) :
      same ↔ ∀ x, literal = .float x → matters x :=
    iff_of_true holds fun x found => absurd found (none x)
  cases recognises with
  | text => exact other (text rfl) nofun
  | @bool b word => exact other (bool b (by cases b <;> rfl) word) nofun
  | @integer n read => exact other (integer n (String.toList_ofList ..) read) nofun
  | @float x point _ =>
    rw [float x point rfl]
    constructor
    · rintro differs _ found
      cases found
      exact differs
    · exact fun differs => differs x rfl

/-- An integer is read from the text of a number with a point, if at all, and not from the word. -/
theorem map_readInt?_iff {α : Type} (f : Int → α) (low high : Int) :
    (Number.readInt? low high t.toList).map f = (Number.readInt? low high w.toList).map f ↔
      ∀ x, literal = .float x → Number.readInt? low high x.plain.toList = none := by
  refine recognises.iff_forall_float ?_ ?_ ?_ ?_
  · rintro rfl
    rfl
  · intro b text word
    rw [Number.readInt?_of_boolOfWord? word, Number.readInt?_of_boolOfWord? text]
  · intro n text read
    rw [text, Number.readInt?_congr (Number.denotes_intDigits n) (Number.denotes_of_readInt? read)]
  · rintro x point rfl
    rw [Number.readInt?_of_point point, Option.map_none, Option.map_eq_none_iff]

/-- Decimals make a difference for numbers with a point only. -/
theorem map_read?_iff {α : Type} {f : Double → α} (apart : ∀ x y, f x = f y ↔ x.extent = y.extent) :
    (Decimal.read? t.toList).map (fun d => f d.toDouble) =
        (Decimal.read? w.toList).map (fun d => f d.toDouble) ↔
      ∀ x, literal = .float x → (Decimal.read? x.plain.toList).map (·.toDouble.extent) =
        (Decimal.read? w.toList).map (·.toDouble.extent) := by
  refine recognises.iff_forall_float ?_ ?_ ?_ ?_
  · rintro rfl
    rfl
  · intro b text word
    rw [Decimal.read?_of_boolOfWord? word, Decimal.read?_of_boolOfWord? text]
  · intro n text read
    -- an integer in the 64-bit range has few enough digits for a decimal
    obtain ⟨_, _, _, _, low, high⟩ := Number.exists_isNumeral read
    have fits : n.natAbs < Decimal.limit := by
      have range : Number.maxInt64.natAbs + 1 < Decimal.limit := by decide +kernel
      rw [Number.minInt64] at low
      rw [Number.maxInt64] at high range
      omega
    rw [text,
      Decimal.read?_congr (Number.denotes_intDigits n) (Number.denotes_of_readInt? read) fits]
  · rintro x - rfl
    cases Decimal.read? x.plain.toList <;> cases Decimal.read? w.toList <;> simp [apart]

end Query.Recognises

namespace FieldType

/-- **When a type makes the same of a word and of its text.** -/
theorem place?_iff_keeps {w : String} (type : FieldType) (bare : Query.IsBareWord w) :
    type.place? (Query.wordText w) = type.place? w ↔ type.Keeps w := by
  have recognises := bare.recognises
  have plain := recognises.noBlank bare.noBlank
  rw [place?_eq plain, place?_eq bare.noBlank]
  unfold Keeps
  generalize Query.wordText w = t at recognises plain ⊢
  generalize Query.bareValue w.toList = literal at recognises ⊢
  obtain ⟨boolean, double, date, dateTime⟩ := recognises.read_alike bare.noBlank
  cases type with
  | text => simp [textPlace]
  | integer => exact recognises.map_readInt?_iff _ _ _
  | long => exact recognises.map_readInt?_iff _ _ _
  | decimal => exact recognises.map_read?_iff fun x y => by simp [realPlace]
  | uuid =>
    have injective : Function.Injective fun id : Uuid => textPlace id.text :=
      fun a b same => Uuid.text_injective (by simpa [textPlace] using same)
    exact (Option.map_injective injective).eq_iff
  | enumeration constants =>
    by_cases known : t ∈ constants
    · by_cases known' : w ∈ constants
      · simp [known, known', textPlace]
      · have other : t ≠ w := by
          rintro rfl
          exact known' known
        simp [known, known', other]
    · by_cases known' : w ∈ constants
      · have other : t ≠ w := by
          rintro rfl
          exact known known'
        simp [known, known', other]
      · simp [known, known']
  | double =>
    -- the place of a double is its extent, which the readers agree on
    have place := congrArg (Option.map fun extent =>
      (some (Sum.inlₗ extent) : Option (NumberLine ⊕ₗ String))) double
    rw [Option.map_map, Option.map_map] at place
    exact iff_of_true place trivial
  | boolean => exact iff_of_true (by rw [boolean]) trivial
  | date => exact iff_of_true (by rw [date]) trivial
  | dateTime => exact iff_of_true (by rw [dateTime]) trivial
  | embedded | relation => exact iff_of_true rfl trivial

end FieldType

/-! ### Comparisons with one value -/

/-- Scalars of one place are in the same order with every scalar, also with a NaN. -/
theorem Scalar.order_congr {b c : Scalar} (ordered : b.IsOrdered) (ordered' : c.IsOrdered)
    (same : b.place = c.place) (a : Scalar) : a.order b = a.order c := by
  by_cases number : a.IsOrdered
  · rw [order_eq_compare number ordered, order_eq_compare number ordered', same]
  · -- a NaN counts as equal to numbers, and texts come behind it
    -- the kind of the scalar decides, which is the same for both
    cases a with
    | integer | text => exact absurd trivial number
    | real x =>
      obtain rfl : x = .nan := not_not.1 number
      cases b with
      | text s =>
        cases c with
        | text t => rfl
        | integer n => cases same
        | real y => cases same
      | integer m =>
        cases c with
        | text t => cases same
        | integer n => rfl
        | real y => rfl
      | real y =>
        cases c with
        | text t => cases same
        | integer n => rfl
        | real z => rfl

namespace DocumentTest

/-- Being one of a single value is being equal to it. -/
theorem holds_oneOf_singleton (value : TypedValue) (found : Json) :
    holds .oneOf (.list [value]) found = holds .equals value found := by
  rw [holds_oneOf, List.any_cons, List.any_nil, Bool.or_false]

/-- Any value can be found at any place. -/
theorem exists_valuesAt (place : Place) (found : Json) :
    ∃ document, valuesAt place document = [found] := by
  -- one object around the value for each name of the path
  have nested (path : List String) : ∃ document, valueAt path document = found := by
    induction path with
    | nil => exact ⟨found, rfl⟩
    | cons name path ih =>
      obtain ⟨inner, same⟩ := ih
      refine ⟨.object [(name, inner)], ?_⟩
      rw [valueAt, Json.at?, Json.member?, Named.get?_cons_self]
      exact same
  obtain ⟨document, same⟩ := nested place.path
  rw [← same]
  unfold valuesAt
  cases place.relation with
  | none => exact ⟨document, rfl⟩
  | some relation =>
    refine ⟨.object [(relation, .array [document])], ?_⟩
    dsimp only
    rw [Json.member?, Named.get?_cons_self]
    rfl

end DocumentTest

section Values

variable {type : FieldType} {text : String} {value : TypedValue} {scalar : Scalar}

/-- An integer that a text is converted to is a 64-bit integer. -/
theorem FieldType.isInt64_of_valueOf? {n : Int} (converted : type.valueOf? text = some value)
    (has : value.scalar? = some (.integer n)) : Number.isInt64 n = true := by
  cases type with
  | integer =>
    -- the readers of integers check a range
    obtain ⟨i, read, rfl⟩ := Option.map_eq_some_iff.1 converted
    obtain ⟨_, _, _, _, low, high⟩ := Number.exists_isNumeral read
    obtain rfl : i = n := by simpa [TypedValue.scalar?, TypedValue.toInt?] using has
    exact Number.isInt64_iff.2 ⟨le_trans (by decide) low, le_trans high (by decide)⟩
  | long =>
    obtain ⟨i, read, rfl⟩ := Option.map_eq_some_iff.1 converted
    obtain ⟨_, _, _, _, low, high⟩ := Number.exists_isNumeral read
    obtain rfl : i = n := by simpa [TypedValue.scalar?, TypedValue.toInt?] using has
    exact Number.isInt64_iff.2 ⟨low, high⟩
  | boolean =>
    obtain ⟨b, read, rfl⟩ := Option.map_eq_some_iff.1 converted
    cases b <;> cases has <;> rfl
  | enumeration constants =>
    obtain rfl := Option.some.inj converted
    split at has <;> cases has
  | text =>
    obtain rfl := Option.some.inj converted
    cases has
  | double | decimal | uuid | date | dateTime =>
    obtain ⟨x, read, rfl⟩ := Option.map_eq_some_iff.1 converted
    cases has
  | embedded | relation => cases converted

/-- A scalar that a text is converted to is a NaN only if the text is. -/
theorem FieldType.isOrdered_of_valueOf? (plain : Text.NoBlank text.toList)
    (converted : type.valueOf? text = some value) (has : value.scalar? = some scalar)
    (number : Double.read? text.toList ≠ some .nan) : scalar.IsOrdered := by
  cases type with
  | double =>
    obtain ⟨x, read, rfl⟩ := Option.map_eq_some_iff.1 converted
    obtain rfl := Option.some.inj has
    rw [plain.trim] at read
    rintro rfl
    exact number read
  | decimal =>
    -- no decimal is a NaN, whatever its text
    obtain ⟨d, read, rfl⟩ := Option.map_eq_some_iff.1 converted
    obtain rfl := Option.some.inj has
    exact d.toDouble_ne_nan
  | integer | long | boolean | uuid | date | dateTime =>
    obtain ⟨x, read, rfl⟩ := Option.map_eq_some_iff.1 converted
    obtain rfl := Option.some.inj has
    trivial
  | text =>
    obtain rfl := Option.some.inj converted
    obtain rfl := Option.some.inj has
    trivial
  | enumeration constants =>
    obtain rfl := Option.some.inj converted
    split at has
    · obtain rfl := Option.some.inj has
      trivial
    · cases has
  | embedded | relation => cases converted

end Values

/-! ### Finding the same -/

section Same

variable {target : Attribute} {value value' : TypedValue}

/-- What a comparison with a value accepts. -/
theorem passes_equals (document : Json) :
    (DocumentTest.ofComparison ⟨target, .equals, value⟩).passes document =
      (DocumentTest.valuesAt target.place document).any (DocumentTest.holds .equals value) := rfl

theorem passes_oneOf (document : Json) :
    (DocumentTest.ofComparison ⟨target, .oneOf, .list [value]⟩).passes document =
      (DocumentTest.valuesAt target.place document).any (DocumentTest.holds .equals value) := by
  change (DocumentTest.valuesAt target.place document).any
    (DocumentTest.holds .oneOf (.list [value])) = _
  rw [funext (DocumentTest.holds_oneOf_singleton value)]

/-- Values of one place are equal to the same stored values. -/
theorem holds_equals_congr (ordered : ∀ a ∈ value.scalar?, a.IsOrdered)
    (ordered' : ∀ a ∈ value'.scalar?, a.IsOrdered)
    (same : value.scalar?.map Scalar.place = value'.scalar?.map Scalar.place) (found : Json) :
    DocumentTest.holds .equals value found = DocumentTest.holds .equals value' found := by
  -- the test looks at the order with the stored value only
  have orders : found.orderTyped? value = found.orderTyped? value' := by
    unfold Json.orderTyped?
    cases found.scalar? with
    | none => rfl
    | some a =>
      cases first : value.scalar? with
      | none =>
        cases second : value'.scalar? with
        | none => rfl
        | some c => rw [first, second] at same; cases same
      | some b =>
        cases second : value'.scalar? with
        | none => rw [first, second] at same; cases same
        | some c =>
          rw [first, second] at same
          exact congrArg some (Scalar.order_congr (ordered b first) (ordered' c second)
            (Option.some.inj same) a)
  unfold DocumentTest.holds
  rw [orders]

/-- A value is equal to itself, and to no value of another place. -/
theorem holds_equals_iff {found : Json} (ordered : ∀ a ∈ value.scalar?, a.IsOrdered)
    (ordered' : ∀ a ∈ found.scalar?, a.IsOrdered) :
    DocumentTest.holds .equals value found = true ↔
      (found.scalar?).isSome ∧
        found.scalar?.map Scalar.place = value.scalar?.map Scalar.place := by
  unfold DocumentTest.holds Json.orderTyped?
  cases first : found.scalar? with
  | none => simp
  | some a =>
    cases second : value.scalar? with
    | none => simp
    | some b =>
      have order := Scalar.order_eq_compare (ordered' a first) (ordered b second)
      simp [Operation.holdsOf, order, compare_eq_iff_eq]

variable {type : FieldType} {text text' : String}

/-- A document with a value that only one of two values of different places is equal to. -/
theorem exists_document (converted : type.valueOf? text = some value)
    (ordered : ∀ a ∈ value.scalar?, a.IsOrdered) (ordered' : ∀ a ∈ value'.scalar?, a.IsOrdered)
    (some_ : value.scalar?.isSome)
    (apart : value.scalar?.map Scalar.place ≠ value'.scalar?.map Scalar.place) (place : Place) :
    ∃ document,
      (DocumentTest.valuesAt place document).any (DocumentTest.holds .equals value) ≠
        (DocumentTest.valuesAt place document).any (DocumentTest.holds .equals value') := by
  obtain ⟨a, has⟩ := Option.isSome_iff_exists.1 some_
  -- stored is the scalar of the first value itself
  obtain ⟨found, same⟩ : ∃ found : Json, found.scalar? = some a := by
    cases a with
    | text s => exact ⟨.text s, rfl⟩
    | real x => exact ⟨.real x, rfl⟩
    | integer n =>
      refine ⟨.int n, ?_⟩
      rw [Json.scalar?, FieldType.isInt64_of_valueOf? converted has]
      rfl
  have stored : ∀ b ∈ found.scalar?, b.IsOrdered := by
    rw [same, ← has]
    exact ordered
  obtain ⟨document, values⟩ := DocumentTest.exists_valuesAt place found
  refine ⟨document, ?_⟩
  have equal : DocumentTest.holds .equals value found = true :=
    (holds_equals_iff ordered stored).2 ⟨by rw [same]; rfl, by rw [same, has]⟩
  -- the second value would have its place
  have other : ¬ DocumentTest.holds .equals value' found = true := by
    intro equal
    obtain ⟨-, same'⟩ := (holds_equals_iff ordered' stored).1 equal
    exact apart (by rw [← same', same, has])
  rw [values]
  simp [equal, other]

/-- **Two values are found in the same documents** exactly if they have the same place. -/
theorem passes_iff_place (converted : type.valueOf? text = some value)
    (converted' : type.valueOf? text' = some value') (ordered : ∀ a ∈ value.scalar?, a.IsOrdered)
    (ordered' : ∀ a ∈ value'.scalar?, a.IsOrdered) :
    (∀ document, (DocumentTest.ofComparison ⟨target, .equals, value⟩).passes document =
        (DocumentTest.ofComparison ⟨target, .oneOf, .list [value']⟩).passes document) ↔
      value.scalar?.map Scalar.place = value'.scalar?.map Scalar.place := by
  simp only [passes_equals, passes_oneOf]
  constructor
  · intro same
    -- the value that is a scalar is the one to be stored
    by_contra apart
    rcases Option.eq_none_or_eq_some value.scalar? with none | ⟨a, has⟩
    · rcases Option.eq_none_or_eq_some value'.scalar? with none' | ⟨a, has⟩
      · exact apart (by rw [none, none'])
      · obtain ⟨document, differs⟩ :=
          exists_document converted' ordered' ordered (by rw [has]; rfl) (Ne.symm apart) target.place
        exact differs (same document).symm
    · obtain ⟨document, differs⟩ :=
        exists_document converted ordered ordered' (by rw [has]; rfl) apart target.place
      exact differs (same document)
  · intro same document
    rw [funext (holds_equals_congr ordered ordered' same)]

end Same

/-! ### Filters of queries -/

/-- **The filter of a query** in a search over an entity type. -/
def Request.filterOfQuery (registry : Registry) (config : Config) (strict : Bool)
    (query entity : String) : Except SearchError (Filter Comparison) := do
  let request ← ofQuery strict query entity
  request.filter registry config entity

/-- **Two searches agree**: both are refused because a value cannot be converted, or both accept the
same documents. -/
inductive SameMatches : Except SearchError (Filter Comparison) →
    Except SearchError (Filter Comparison) → Prop
  | refused (field kind text text' : String) :
    SameMatches (.error (.conversion field kind text)) (.error (.conversion field kind text'))
  | accepted {filter filter' : Filter Comparison}
    (same : ∀ document, filter.accepts document = filter'.accepts document) :
    SameMatches (.ok filter) (.ok filter')

namespace Request

variable {registry : Registry} {config : Config} {entity : String}

/-- **The filter of a single criterion** in a group of its own is its comparison. -/
theorem filter_of_single {request : Request} {group : String} {criterion : Criterion}
    (compiled : request.compile = .ok (.and [.leaf criterion.id]))
    (listed : request.listed = [(group, criterion.id)])
    (found : request.criterion? criterion.id = some criterion) :
    request.filter registry config entity =
      (criterion.comparison registry config entity).map fun comparison =>
        .and [.leaf comparison] := by
  -- the table gets one predicate, or none where the criterion fails
  have predicates : request.predicates (Criterion.predicate registry config entity .ok) =
      (criterion.comparison registry config entity).map fun comparison =>
        [(criterion.id, comparison)] := by
    rw [Request.predicates, listed, resolveListed, Named.get?_nil]
    dsimp only
    rw [found]
    dsimp only
    rw [Criterion.predicate_ok]
    cases criterion.comparison registry config entity <;> rfl
  rw [Request.filter, filterOf, compiled]
  dsimp only
  rw [predicates]
  cases criterion.comparison registry config entity with
  | error error => rfl
  | ok comparison =>
    have leaf : Filter.ofId [(criterion.id, comparison)] criterion.id = .leaf comparison := by
      rw [Filter.ofId, Named.get?_cons_self]
    change Except.ok (Filter.and [Filter.ofId [(criterion.id, comparison)] criterion.id]) = _
    rw [leaf]
    rfl

/-- **The filter of a condition** is its comparison. -/
theorem filterOfQuery_condition {strict : Bool} {query : String} {condition : Query.Condition}
    (read : Query.read strict query = .ok (.condition condition)) :
    filterOfQuery registry config strict query entity =
      (Criterion.comparison ⟨criterionId 1, entity, condition.path, condition.operation,
        condition.value⟩ registry config entity).map fun comparison =>
          .and [.leaf comparison] := by
  obtain ⟨path, operation, value⟩ := condition
  let criterion : Criterion := ⟨criterionId 1, entity, path, operation, value⟩
  obtain ⟨request, made, _, _, compiled⟩ :=
    ofExpression_compiles entity (.condition ⟨path, operation, value⟩)
  have parsed : ofQuery strict query entity = .ok request :=
    ofQuery_eq_ok_iff.2 ⟨_, read, made⟩
  obtain rfl := Except.ok.inj made
  -- the request lists its criterion in one group
  generalize whole :
    (Numbered.addCondition entity ⟨path, operation, value⟩ {}).request = request at *
  have listed : request.listed = [(groupId 1, criterion.id)] := whole ▸ rfl
  have found : request.criterion? criterion.id = some criterion :=
    whole ▸ List.find?_cons_of_pos (decide_eq_true rfl)
  change (ofQuery strict query entity).bind _ = _
  rw [parsed]
  exact filter_of_single compiled listed found

end Request

/-- A text is converted to what the type of the field makes of it. -/
theorem Field.coerce_text (field : Field) (text : String) :
    field.coerce (.text text) =
      match field.type.valueOf? text with
      | some value => .ok value
      | none => .error (field.conversionError (.text text)) := rfl

section Words

open Query (IsBareWord IsPath wordText bareValue)

variable {registry : Registry} {config : Config} {entity path w : String} {target : Attribute}
  (resolved : registry.resolve entity path = .ok target)
  (scalar : target.field.type.isScalar = true)
include resolved scalar

/-- The comparison of a criterion about the entity type that is searched. -/
theorem comparison_eq {id : String} {operation : Operation} {literal : Literal}
    (pattern : operation.isPattern = false) (check : operation.isNullCheck = false) :
    Criterion.comparison ⟨id, entity, path, operation, literal⟩ registry config entity =
      (if operation.isMembership then target.field.coerceMany literal
        else target.field.coerce literal).map fun value => ⟨target, operation, value⟩ := by
  have about : Criterion.isAbout ⟨id, entity, path, operation, literal⟩ entity = true := by
    rw [Criterion.isAbout, Text.sameIgnoringCase, Text.equalsIgnoringCase, beq_self_eq_true,
      Bool.or_true]
  have coerced : target.field.coerceFor operation literal =
      if operation.isMembership then target.field.coerceMany literal
      else target.field.coerce literal := by
    rw [Field.coerceFor, check, scalar, pattern]
    rfl
  rw [Criterion.comparison_eq_map about resolved pattern, coerced]

variable (named : IsPath path.toList) (bare : IsBareWord w) (strict : Bool)
include named bare

/-- **The filter of a comparison** with a bare word. -/
theorem filterOfQuery_equals :
    Request.filterOfQuery registry config strict (path ++ " = " ++ w) entity =
      match target.field.type.valueOf? (wordText w) with
      | some value => .ok (.and [.leaf ⟨target, .equals, value⟩])
      | none => .error (target.field.conversionError (bareValue w.toList)) := by
  rw [Request.filterOfQuery_condition (bare.read_comparison strict named),
    comparison_eq resolved scalar rfl rfl]
  have recognises := bare.recognises
  change (((target.field.coerce (bareValue w.toList)).map _).map _) = _
  rw [Field.coerce, recognises.isNull, if_neg Bool.false_ne_true, recognises.scalarText?]
  dsimp only [Option.bind_some]
  cases target.field.type.valueOf? (wordText w) <;> rfl

/-- **The filter of a membership test** with a bare word. -/
theorem filterOfQuery_oneOf :
    Request.filterOfQuery registry config strict (path ++ " IN (" ++ w ++ ")") entity =
      match target.field.type.valueOf? w with
      | some value => .ok (.and [.leaf ⟨target, .oneOf, .list [value]⟩])
      | none => .error (target.field.conversionError (.text w)) := by
  rw [Request.filterOfQuery_condition (bare.read_membership strict named),
    comparison_eq resolved scalar rfl rfl]
  change (((target.field.coerceMany (.list [.text w])).map _).map _) = _
  rw [Field.coerceMany, Field.elements, List.mapM_cons, Field.coerce_text]
  cases target.field.type.valueOf? w <;> rfl

/-- **When a comparison with a bare word finds the same as a membership test**: if the type of the
attribute makes the same of the word and of its text. -/
theorem sameMatches_iff_keeps :
    SameMatches (Request.filterOfQuery registry config strict (path ++ " = " ++ w) entity)
        (Request.filterOfQuery registry config strict (path ++ " IN (" ++ w ++ ")") entity) ↔
      target.field.type.Keeps w := by
  have recognises := bare.recognises
  have plain := recognises.noBlank bare.noBlank
  rw [← target.field.type.place?_iff_keeps bare, filterOfQuery_equals resolved scalar named bare,
    filterOfQuery_oneOf resolved scalar named bare, FieldType.place?, FieldType.place?]
  have accepts (comparison : Comparison) (document : Json) :
      (Filter.and [.leaf comparison]).accepts document =
        (DocumentTest.ofComparison comparison).passes document := by
    rw [Filter.accepts, Filter.holds_and, List.all_cons, List.all_nil, Bool.and_true,
      Filter.holds_leaf]
  -- a word is refused by both, by one of them, or by none
  cases first : target.field.type.valueOf? (wordText w) with
  | none =>
    cases second : target.field.type.valueOf? w with
    | none => exact iff_of_true (.refused _ _ _ _) rfl
    | some value =>
      refine iff_of_false (fun same => ?_) (by simp)
      cases same
  | some value =>
    cases second : target.field.type.valueOf? w with
    | none =>
      refine iff_of_false (fun same => ?_) (by simp)
      cases same
    | some value' =>
      have matches_ : SameMatches (.ok (.and [.leaf ⟨target, .equals, value⟩]))
          (.ok (.and [.leaf ⟨target, .oneOf, .list [value']⟩])) ↔
            ∀ document, (DocumentTest.ofComparison ⟨target, .equals, value⟩).passes document =
              (DocumentTest.ofComparison ⟨target, .oneOf, .list [value']⟩).passes document := by
        constructor
        · intro found document
          cases found with
          | accepted same => rw [← accepts, ← accepts, same]
        · exact fun same => .accepted fun document => by rw [accepts, accepts, same]
      have places : (some value).map (fun value => value.scalar?.map Scalar.place) =
          (some value').map (fun value => value.scalar?.map Scalar.place) ↔
            value.scalar?.map Scalar.place = value'.scalar?.map Scalar.place := Option.some_inj
      refine matches_.trans (Iff.trans ?_ places.symm)
      rcases recognises.same_or_nan with same | ⟨number, number'⟩
      · -- one value, which may be a NaN
        rw [same, second] at first
        obtain rfl := Option.some.inj first
        exact iff_of_true (fun document => by rw [passes_equals, passes_oneOf]) rfl
      · exact passes_iff_place first second
          (fun a has => FieldType.isOrdered_of_valueOf? plain first has number)
          (fun a has => FieldType.isOrdered_of_valueOf? bare.noBlank second has number')

end Words

/-! ### Fields by their names -/

/-- An identifier is a path in a query. -/
theorem IsIdentifier.isPath {name : String} (identifier : IsIdentifier name) :
    Query.IsPath name.toList where
  nonempty := identifier.nonempty
  plain := by
    intro c mem
    rcases identifier.chars c mem with letter | rfl
    · exact Query.isAttributeChar_of_isAlphanum letter
    · rfl

namespace Registry

variable {registry : Registry} {entity name : String} {field : Field}

/-- **The name of a field resolves to the field**, of the entity type itself or inherited. -/
theorem Reached.resolve_findField? (reached : Reached registry)
    (found : registry.findField? entity name = some field) :
    IsIdentifier name ∧ registry.resolve entity name = .ok ⟨entity, none, [name], field⟩ := by
  have wellNamed := reached.wellNamed
  have identifier := wellNamed.isIdentifier_of_declares (name_of_findField? found).2
  obtain ⟨start, registered, _⟩ := Option.bind_eq_some_iff.1 found
  obtain rfl := wellNamed.own entity start registered
  -- a name without a dot is a path of one step
  have spelled : registry.Spells start (Text.joined "." [name]).toList
      ⟨start.name, none, [name], field⟩ :=
    spells_joined (List.forall_mem_singleton.2 identifier) (List.cons_ne_nil _ _) (.last found)
  rw [Text.joined_singleton] at spelled
  refine ⟨identifier, resolve_eq_ok_iff.2 ⟨start, registered, ?_⟩⟩
  rwa [identifier.noBlank.trim]

/-- **A bare word by itself and in a list**: comparing a field with a bare word finds the same as
testing it for membership in the list of the word, or both are refused, if and only if the type of
the field makes the same of the word and of its text. -/
theorem Reached.sameMatches_bareWord (reached : Reached registry)
    (found : registry.findField? entity name = some field) (scalar : field.type.isScalar = true)
    {w : String} (bare : Query.IsBareWord w) (config : Config) (strict : Bool) :
    SameMatches (Request.filterOfQuery registry config strict (name ++ " = " ++ w) entity)
        (Request.filterOfQuery registry config strict (name ++ " IN (" ++ w ++ ")") entity) ↔
      field.type.Keeps w := by
  obtain ⟨identifier, resolved⟩ := reached.resolve_findField? found
  exact sameMatches_iff_keeps resolved scalar identifier.isPath bare strict

/-- Parcels with a code and a weight. -/
def parcels : Registry :=
  (empty.registerInPlace
    ⟨"Parcel", none, [⟨"id", .text⟩, ⟨"code", .text⟩, ⟨"weight", .double⟩]⟩).2

theorem parcels_reached : Reached parcels := .registered .empty _

/-- A weight is the same number with and without a last zero. -/
theorem Reached.sameMatches_bareWord_weight :
    SameMatches (Request.filterOfQuery parcels {} false "weight = 1.50" "Parcel")
      (Request.filterOfQuery parcels {} false "weight IN (1.50)" "Parcel") := by
  have found : parcels.findField? "Parcel" "weight" = some ⟨"weight", .double⟩ := by cbv
  have bare : Query.IsBareWord "1.50" := by decide
  exact (parcels_reached.sameMatches_bareWord found rfl bare {} false).2 trivial

/-- A code is another text without its first zeros: in a list the word is the code, and behind a
symbol it is a number. -/
theorem parcels_differ :
    Reached parcels ∧ parcels.findField? "Parcel" "code" = some ⟨"code", .text⟩ ∧
      Query.IsBareWord "007" ∧
      ¬ SameMatches (Request.filterOfQuery parcels {} false "code = 007" "Parcel")
        (Request.filterOfQuery parcels {} false "code IN (007)" "Parcel") := by
  have found : parcels.findField? "Parcel" "code" = some ⟨"code", .text⟩ := by cbv
  have bare : Query.IsBareWord "007" := by decide
  refine ⟨parcels_reached, found, bare, ?_⟩
  obtain ⟨identifier, resolved⟩ := parcels_reached.resolve_findField? found
  have differ : ¬ FieldType.Keeps .text "007" := by
    change Query.wordText "007" ≠ "007"
    decide +kernel
  intro same
  exact differ ((sameMatches_iff_keeps resolved rfl identifier.isPath bare false).1 same)

end Registry

end EntitySearch
