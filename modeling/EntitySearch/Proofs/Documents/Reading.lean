import EntitySearch.Proofs.Documents.Numerals

/-!
# Reading documents

The text of a value is read as that value, except for its doubles. The digits that are written name
a double, but the reader rounds more than once and can end at a neighbour. `Double.readBack?` is the
double that is read, and `Json.asRead` is a value with every double as it is read. A text is read as
this value (`read?_compact`) as long as it has no more levels of nesting than the reader takes and
its numbers can be read at all. Integers of 64 bits can, and they are read as they are.

Whatever stands inside of a value is read while there is more text behind it. `Reads` says that a
reader takes a value off the front of its text, and the proof goes up from the parts to the whole:
an array is read if its items are, an object if the values of its members are.
-/

namespace EntitySearch

namespace Json

/-! ### What a value is made of -/

section Each

variable (scalar : Json → Bool) (name : String → Bool)

mutual

/-- **Whether all scalars and all names in a value pass a test.** -/
def each : Json → Bool
  | array items => eachItem items
  | object members => eachMember members
  | value => scalar value

/-- Whether the scalars and names in the items of an array do. -/
def eachItem : List Json → Bool
  | [] => true
  | item :: rest => each item && eachItem rest

/-- Whether the scalars and names in the members of an object do. -/
def eachMember : List (String × Json) → Bool
  | [] => true
  | (key, value) :: rest => name key && each value && eachMember rest

end

end Each

mutual

/-- **The levels of nesting** of a value, with the innermost one. -/
def levels : Json → Nat
  | array items => itemLevels items + 1
  | object members => memberLevels members + 1
  | _ => 1

/-- The levels of the items of an array. An empty one counts as much as one with a scalar in it. -/
def itemLevels : List Json → Nat
  | [] => 1
  | item :: rest => max (levels item) (itemLevels rest)

/-- The levels of the values of the members of an object. -/
def memberLevels : List (String × Json) → Nat
  | [] => 1
  | (_, value) :: rest => max (levels value) (memberLevels rest)

end

section Parts

variable {scalar : Json → Bool} {name : String → Bool}

theorem eachItem_iff {items : List Json} :
    eachItem scalar name items ↔ ∀ item ∈ items, item.each scalar name := by
  induction items with
  | nil => exact iff_of_true rfl nofun
  | cons item rest ih => rw [eachItem, Bool.and_eq_true, ih, List.forall_mem_cons]

theorem eachMember_iff {members : List (String × Json)} :
    eachMember scalar name members ↔
      ∀ member ∈ members, name member.1 ∧ member.2.each scalar name := by
  induction members with
  | nil => exact iff_of_true rfl nofun
  | cons member rest ih =>
    rw [eachMember, Bool.and_eq_true, Bool.and_eq_true, ih, List.forall_mem_cons]

theorem itemLevels_pos (items : List Json) : 0 < itemLevels items := by
  induction items with
  | nil => exact Nat.one_pos
  | cons item rest ih => exact ih.trans_le (Nat.le_max_right _ _)

/-- The members of an object have the levels of their values. -/
theorem memberLevels_eq (members : List (String × Json)) :
    memberLevels members = itemLevels (members.map Prod.snd) := by
  induction members with
  | nil => rfl
  | cons member rest ih => rw [memberLevels, ih, List.map_cons, itemLevels]

/-- An item has no more levels than all items together. -/
theorem levels_le_of_mem {item : Json} {items : List Json} (mem : item ∈ items) :
    item.levels ≤ itemLevels items := by
  induction items with
  | nil => cases mem
  | cons other rest ih =>
    rcases List.mem_cons.1 mem with rfl | mem
    · exact Nat.le_max_left _ _
    · exact (ih mem).trans (Nat.le_max_right _ _)

end Parts

/-! ### Values as they are read -/

end Json

/-- **The double that is read** from the text of a double. -/
def Double.readBack? (x : Double) : Option Double :=
  match Json.readValue? 0 1 x.json.toList with
  | some (.real y, []) => some y
  | _ => none

namespace Json

/-- Whether a scalar can be read from its text. -/
def isLegible : Json → Bool
  | int n => Number.minInt64 ≤ n && n ≤ Number.maxNat64
  | real x => x.readBack?.isSome
  | _ => true

/-- Whether all scalars in a value can be read from their texts. -/
abbrev allLegible (value : Json) : Bool := value.each isLegible fun _ => true

mutual

/-- **The value that is read** from the text of a value: every double is the one that is read from
its own text. -/
def asRead : Json → Json
  | real x => real (x.readBack?.getD x)
  | array items => array (itemsAsRead items)
  | object members => object (membersAsRead members)
  | value => value

/-- The items of an array as they are read. -/
def itemsAsRead : List Json → List Json
  | [] => []
  | item :: rest => asRead item :: itemsAsRead rest

/-- The members of an object as they are read. -/
def membersAsRead : List (String × Json) → List (String × Json)
  | [] => []
  | (name, value) :: rest => (name, asRead value) :: membersAsRead rest

end

theorem itemsAsRead_eq_map (items : List Json) : itemsAsRead items = items.map asRead := by
  induction items with
  | nil => rfl
  | cons item rest ih => rw [itemsAsRead, ih, List.map_cons]

theorem membersAsRead_eq_map (members : List (String × Json)) :
    membersAsRead members = members.map fun member => (member.1, member.2.asRead) := by
  induction members with
  | nil => rfl
  | cons member rest ih => rw [membersAsRead, ih, List.map_cons]

/-! ### Texts of values -/

theorem toList_array (items : List Json) :
    (array items).compact.toList = '[' :: ((compactItems items).toList ++ [']']) := by
  rw [compact, String.toList_append, String.toList_append]
  rfl

theorem toList_object (members : List (String × Json)) :
    (object members).compact.toList = '\x7b' :: ((compactMembers members).toList ++ ['\x7d']) := by
  rw [compact, String.toList_append, String.toList_append]
  rfl

/-- Behind the first item every item has a comma in front. -/
theorem toList_compactItems (item : Json) (rest : List Json) :
    (compactItems (item :: rest)).toList =
      item.compact.toList ++ rest.flatMap fun item => ',' :: item.compact.toList := by
  induction rest generalizing item with
  | nil => rw [compactItems, List.flatMap_nil, List.append_nil]
  | cons next rest ih =>
    rw [compactItems, String.toList_append, String.toList_append, ih, List.flatMap_cons,
      List.append_assoc]
    rfl

/-- The text of a member: its name, a colon and its value. -/
def memberText (member : String × Json) : List Char :=
  (quoted member.1).toList ++ ':' :: member.2.compact.toList

/-- Behind the first member every member has a comma in front. -/
theorem toList_compactMembers (member : String × Json) (rest : List (String × Json)) :
    (compactMembers (member :: rest)).toList =
      memberText member ++ rest.flatMap fun member => ',' :: memberText member := by
  have whole (member : String × Json) :
      (quoted member.1 ++ ":" ++ member.2.compact).toList = memberText member := by
    rw [String.toList_append, String.toList_append, List.append_assoc]
    rfl
  induction rest generalizing member with
  | nil => rw [compactMembers, whole, List.flatMap_nil, List.append_nil]
  | cons next rest ih =>
    have comma : ",".toList = [','] := rfl
    rw [compactMembers, String.toList_append, String.toList_append, whole, ih, List.flatMap_cons,
      List.append_assoc, comma, List.singleton_append, List.cons_append]

/-- Parts with commas in front take up at least their number and the length of each of them. -/
theorem length_le_flatMap {α : Type} (text : α → List Char) (parts : List α) :
    parts.length ≤ (parts.flatMap fun part => ',' :: text part).length ∧
      ∀ part ∈ parts, (text part).length ≤ (parts.flatMap fun part => ',' :: text part).length := by
  induction parts with
  | nil => exact ⟨Nat.le_refl 0, nofun⟩
  | cons part rest ih =>
    obtain ⟨count, each⟩ := ih
    rw [List.flatMap_cons, List.length_append, List.length_cons, List.length_cons]
    refine ⟨by omega, List.forall_mem_cons.2 ⟨by omega, fun other mem => ?_⟩⟩
    have := each other mem
    omega

/-- The text of an array is at least as long as the array, and as each of its items. -/
theorem length_le_array (items : List Json) :
    items.length ≤ (array items).compact.toList.length ∧
      ∀ item ∈ items, item.compact.toList.length ≤ (array items).compact.toList.length := by
  rw [toList_array, List.length_cons, List.length_append]
  cases items with
  | nil => exact ⟨Nat.zero_le _, nofun⟩
  | cons item rest =>
    obtain ⟨count, each⟩ := length_le_flatMap (fun item : Json => item.compact.toList) rest
    rw [toList_compactItems, List.length_append, List.length_cons]
    refine ⟨by omega, List.forall_mem_cons.2 ⟨by omega, fun other mem => ?_⟩⟩
    have := each other mem
    omega

/-- The text of an object is at least as long as the object, and as the value of each member. -/
theorem length_le_object (members : List (String × Json)) :
    members.length ≤ (object members).compact.toList.length ∧
      ∀ member ∈ members,
        member.2.compact.toList.length ≤ (object members).compact.toList.length := by
  have value (member : String × Json) :
      member.2.compact.toList.length ≤ (memberText member).length := by
    rw [memberText, List.length_append, List.length_cons]
    omega
  rw [toList_object, List.length_cons, List.length_append]
  cases members with
  | nil => exact ⟨Nat.zero_le _, nofun⟩
  | cons member rest =>
    -- behind the first member each one takes a comma and its own text
    obtain ⟨count, each⟩ := length_le_flatMap memberText rest
    rw [toList_compactMembers, List.length_append, List.length_cons]
    have first := value member
    refine ⟨by omega, List.forall_mem_cons.2 ⟨by omega, fun other mem => ?_⟩⟩
    have := (value other).trans (each other mem)
    omega

/-- **A reader reads a value** off the front of its text, whatever follows. -/
def Reads (reader : ValueReader) (value : Json) : Prop :=
  ∀ rest, EndsNumber rest → reader (value.compact.toList ++ rest) = some (value.asRead, rest)

/-- A word is no number. -/
theorem readWord?_ne_real {s rest : List Char} {x : Double} :
    readWord? s ≠ some (real x, rest) := by
  intro read
  rw [readWord?.eq_def] at read
  split at read
  all_goals simp at read

/-- A text is read as a double only if it starts as a number does. -/
theorem readNumber?_of_readValue? {s : List Char} {x : Double}
    (read : readValue? 0 1 s = some (real x, [])) :
    (∃ c rest, s = c :: rest ∧ c.isDigit ∧ readNumber? false s = some (real x, [])) ∨
      ∃ rest, s = '-' :: rest ∧ readNumber? true rest = some (real x, []) := by
  cases s with
  | nil => cases read
  | cons c rest =>
    rw [readValue?] at read
    -- the first character decides what is read, and a double starts with a hyphen or a digit
    by_cases mark : c = '\x22'
    · rw [if_pos mark] at read
      obtain ⟨_, _, text⟩ := Option.map_eq_some_iff.1 read
      cases text
    rw [if_neg mark] at read
    by_cases minus : c = '-'
    · rw [if_pos minus] at read
      exact .inr ⟨rest, minus ▸ rfl, read⟩
    rw [if_neg minus] at read
    by_cases digit : c.isDigit
    · rw [if_pos digit] at read
      exact .inl ⟨c, rest, rfl, digit, read⟩
    rw [if_neg digit] at read
    -- an array or an object has no level left for what is in it
    by_cases bracket : c = '['
    · rw [if_pos bracket] at read
      split at read
      · cases read
      · split at read
        · cases read
        · cases read
    rw [if_neg bracket] at read
    by_cases brace : c = '\x7b'
    · rw [if_pos brace] at read
      split at read
      · split at read
        · cases read
        · split at read
          · cases read
          · cases read
      · cases read
    rw [if_neg brace] at read
    exact absurd read readWord?_ne_real

/-- A legible double is read from its text alone. -/
theorem readValue?_json {x : Double} (legible : isLegible (real x)) :
    readValue? 0 1 x.json.toList = some (asRead (real x), []) := by
  obtain ⟨y, back⟩ := Option.isSome_iff_exists.1 legible
  rw [asRead, back, Option.getD_some]
  rw [Double.readBack?] at back
  split at back
  · next z read =>
    obtain rfl := Option.some.inj back
    exact read
  · cases back

/-- The text of a value starts with a character that is no white space and closes nothing. -/
theorem head?_compact {value : Json} (legible : value.allLegible) :
    ∃ c s, value.compact.toList = c :: s ∧ isGap c = false ∧ c ≠ ']' := by
  -- a digit is neither white space nor a bracket
  have ofDigit {c : Char} (digit : c.isDigit) : isGap c = false ∧ c ≠ ']' := by
    refine ⟨Bool.eq_false_iff.2 fun gap => ?_, ?_⟩
    · simp only [isGap, Bool.or_eq_true, decide_eq_true_eq] at gap
      rcases gap with ((rfl | rfl) | rfl) | rfl <;> cases digit
    · rintro rfl
      cases digit
  cases value with
  | null => exact ⟨'n', _, rfl, rfl, by decide⟩
  | bool value =>
    cases value with
    | true => exact ⟨'t', _, rfl, rfl, by decide⟩
    | false => exact ⟨'f', _, rfl, rfl, by decide⟩
  | int n =>
    rw [compact, Number.intText, String.toList_ofList]
    cases n with
    | ofNat n =>
      obtain ⟨c, s, text⟩ := List.exists_cons_of_ne_nil (Nat.toDigits_ne_nil (n := n) (b := 10))
      have mem : c ∈ Nat.toDigits 10 n := text ▸ List.mem_cons_self
      have digit : c.isDigit := Number.isDigit_natDigits n c mem
      exact ⟨c, s, text, ofDigit digit⟩
    | negSucc n => exact ⟨'-', _, rfl, rfl, by decide⟩
  | real x =>
    -- the text of a legible double is read as one, which tells its first character
    rcases readNumber?_of_readValue? (readValue?_json legible) with
      ⟨c, s, text, digit, _⟩ | ⟨s, text, _⟩
    · exact ⟨c, s, text, ofDigit digit⟩
    · exact ⟨'-', s, text, rfl, by decide⟩
  | text value => exact ⟨'\x22', _, String.toList_ofList, rfl, by decide⟩
  | array items => exact ⟨'[', _, toList_array items, rfl, by decide⟩
  | object members => exact ⟨'\x7b', _, toList_object members, rfl, by decide⟩

/-- There is no white space in front of the text of a value. -/
theorem skipGap_compact {value : Json} (legible : value.allLegible) (rest : List Char) :
    skipGap (value.compact.toList ++ rest) = value.compact.toList ++ rest := by
  obtain ⟨c, s, text, solid, _⟩ := head?_compact legible
  rw [text, List.cons_append, skipGap, List.dropWhile_cons_of_neg (Bool.eq_false_iff.1 solid)]

/-! ### Items and members -/

/-- Behind a part of an array or an object comes a comma or the end of it. -/
theorem endsNumber_flatMap {α : Type} (text : α → List Char) (parts : List α) {close : Char}
    (closes : close = ']' ∨ close = '\x7d') (rest : List Char) :
    EndsNumber (parts.flatMap (fun part => ',' :: text part) ++ close :: rest) := by
  cases parts with
  | nil => rcases closes with rfl | rfl <;> exact endsNumber_cons (by decide)
  | cons part parts => exact endsNumber_cons (by decide)

/-- **The items of an array are read** one by one, each behind a comma. -/
theorem readItems?_of_reads {reader : ValueReader} {items : List Json}
    (reads : ∀ item ∈ items, Reads reader item) (legible : ∀ item ∈ items, item.allLegible)
    {fuel : Nat} (enough : items.length < fuel) (read : List Json) (rest : List Char) :
    readItems? reader fuel read
        (items.flatMap (fun item => ',' :: item.compact.toList) ++ ']' :: rest) =
      some (array (read.reverse ++ items.map asRead), rest) := by
  induction items generalizing read fuel with
  | nil =>
    obtain ⟨fuel, rfl⟩ := Nat.exists_eq_add_one_of_ne_zero (Nat.ne_of_gt enough)
    rw [List.map_nil, List.append_nil]
    rfl
  | cons item items ih =>
    obtain ⟨fuel, rfl⟩ := Nat.exists_eq_add_one_of_ne_zero (Nat.ne_of_gt (Nat.zero_lt_of_lt enough))
    rw [List.length_cons, Nat.add_lt_add_iff_right] at enough
    let tail := items.flatMap (fun item => ',' :: item.compact.toList) ++ ']' :: rest
    -- a comma or the closing bracket ends the item, whatever it is
    have ends : EndsNumber tail := endsNumber_flatMap _ items (.inl rfl) rest
    have text : (item :: items).flatMap (fun item => ',' :: item.compact.toList) ++ ']' :: rest =
        ',' :: (item.compact.toList ++ tail) := by
      rw [List.flatMap_cons, List.append_assoc]
      rfl
    have first : reader (skipGap (item.compact.toList ++ tail)) = some (item.asRead, tail) := by
      rw [skipGap_compact (legible item List.mem_cons_self)]
      exact reads item List.mem_cons_self tail ends
    have others := ih (fun other mem => reads other (List.mem_cons_of_mem item mem))
      (fun other mem => legible other (List.mem_cons_of_mem item mem)) enough (item.asRead :: read)
    have comma (s : List Char) : skipGap (',' :: s) = ',' :: s := rfl
    rw [text, readItems?, comma]
    simp only [first]
    rw [others, List.reverse_cons, List.append_assoc]
    rfl

/-- **A member is read** if its value is. -/
theorem readMember?_of_reads {reader : ValueReader} {member : String × Json}
    (reads : Reads reader member.2) (legible : member.2.allLegible) {rest : List Char}
    (ends : EndsNumber rest) :
    readMember? reader (memberText member ++ rest) = some ((member.1, member.2.asRead), rest) := by
  obtain ⟨name, value⟩ := member
  have text : memberText (name, value) ++ rest =
      '\x22' :: (name.toList.flatMap escaped ++
        '\x22' :: ':' :: (value.compact.toList ++ rest)) := by
    rw [memberText, quoted, String.toList_ofList, List.append_assoc, List.cons_append,
      List.append_assoc]
    rfl
  -- the name is read up to the mark that closes it
  have named := readString?_flatMap_escaped name.toList []
    (':' :: (value.compact.toList ++ rest))
  rw [List.reverse_nil, List.nil_append, String.ofList_toList] at named
  have valued : reader (skipGap (value.compact.toList ++ rest)) = some (value.asRead, rest) := by
    rw [skipGap_compact legible]
    exact reads rest ends
  -- neither in front of the name nor behind it is there white space to skip
  have mark (s : List Char) : skipGap ('\x22' :: s) = '\x22' :: s := rfl
  have colon (s : List Char) : skipGap (':' :: s) = ':' :: s := rfl
  rw [text, readMember?, mark]
  dsimp only
  rw [if_pos rfl, named]
  simp only [colon, valued]
  rfl

/-- **The members of an object are read** one by one. -/
theorem readMembers?_of_reads {reader : ValueReader} {members : List (String × Json)}
    (reads : ∀ member ∈ members, Reads reader member.2)
    (legible : ∀ member ∈ members, member.2.allLegible) {fuel : Nat}
    (enough : members.length < fuel) (read : List (String × Json)) (rest : List Char) :
    readMembers? reader fuel read
        (members.flatMap (fun member => ',' :: memberText member) ++ '\x7d' :: rest) =
      some (object (read.reverse ++ members.map fun member => (member.1, member.2.asRead)),
        rest) := by
  induction members generalizing read fuel with
  | nil =>
    obtain ⟨fuel, rfl⟩ := Nat.exists_eq_add_one_of_ne_zero (Nat.ne_of_gt enough)
    rw [List.map_nil, List.append_nil]
    rfl
  | cons member members ih =>
    obtain ⟨fuel, rfl⟩ := Nat.exists_eq_add_one_of_ne_zero (Nat.ne_of_gt (Nat.zero_lt_of_lt enough))
    rw [List.length_cons, Nat.add_lt_add_iff_right] at enough
    let tail := members.flatMap (fun member => ',' :: memberText member) ++ '\x7d' :: rest
    -- a comma or the closing brace ends the value, whatever it is
    have ends : EndsNumber tail := endsNumber_flatMap _ members (.inr rfl) rest
    have text : (member :: members).flatMap (fun member => ',' :: memberText member) ++
        '\x7d' :: rest = ',' :: (memberText member ++ tail) := by
      rw [List.flatMap_cons, List.append_assoc]
      rfl
    have first := readMember?_of_reads (reads member List.mem_cons_self)
      (legible member List.mem_cons_self) ends
    have others := ih (fun other mem => reads other (List.mem_cons_of_mem member mem))
      (fun other mem => legible other (List.mem_cons_of_mem member mem)) enough
      ((member.1, member.2.asRead) :: read)
    have comma (s : List Char) : skipGap (',' :: s) = ',' :: s := rfl
    rw [text, readMembers?, comma]
    dsimp only
    rw [if_neg (by decide), if_pos rfl, first]
    dsimp only
    rw [others, List.reverse_cons, List.append_assoc]
    rfl

/-! ### Values -/

section Values

variable {fuel level : Nat} {rest : List Char}

theorem readValue?_mark (s : List Char) :
    readValue? fuel (level + 1) ('\x22' :: s) =
      (readString? [] s).map fun (value, rest) => (.text value, rest) := rfl

theorem readValue?_minus (s : List Char) :
    readValue? fuel (level + 1) ('-' :: s) = readNumber? true s := rfl

theorem readValue?_digit {c : Char} (digit : c.isDigit) (s : List Char) :
    readValue? fuel (level + 1) (c :: s) = readNumber? false (c :: s) := by
  have mark : c ≠ '\x22' := by
    rintro rfl
    cases digit
  have minus : c ≠ '-' := by
    rintro rfl
    cases digit
  rw [readValue?, if_neg mark, if_neg minus, if_pos digit]

theorem readValue?_bracket {c : Char} (solid : isGap c = false) (opens : c ≠ ']') (s : List Char) :
    readValue? fuel (level + 1) ('[' :: c :: s) =
      match readValue? fuel level (c :: s) with
      | some (item, rest) => readItems? (readValue? fuel level) fuel [item] rest
      | none => none := by
  have start : skipGap (c :: s) = c :: s := List.dropWhile_cons_of_neg (Bool.eq_false_iff.1 solid)
  rw [readValue?, if_neg (by decide), if_neg (by decide), if_neg (by decide), if_pos rfl, start]
  split
  · next same => exact absurd (List.cons.inj same).1 opens
  · rfl

theorem readValue?_brace (s : List Char) :
    readValue? fuel (level + 1) ('\x7b' :: '\x22' :: s) =
      match readMember? (readValue? fuel level) ('\x22' :: s) with
      | some (member, rest) => readMembers? (readValue? fuel level) fuel [member] rest
      | none => none := by
  have start : skipGap ('\x22' :: s) = '\x22' :: s := rfl
  rw [readValue?, if_neg (by decide), if_neg (by decide), if_neg (by decide), if_neg (by decide),
    if_pos rfl, start]
  exact if_neg (by decide)

/-- **An array is read** if its items are. -/
theorem reads_array {items : List Json} (reads : ∀ item ∈ items, Reads (readValue? fuel level) item)
    (legible : ∀ item ∈ items, item.allLegible) (enough : items.length ≤ fuel)
    (inner : level ≠ 0) : Reads (readValue? fuel (level + 1)) (array items) := by
  intro rest _
  cases items with
  | nil =>
    rw [toList_array]
    -- an empty array is closed at once
    exact if_neg inner
  | cons item items =>
    let tail := items.flatMap (fun item => ',' :: item.compact.toList) ++ ']' :: rest
    have text : (array (item :: items)).compact.toList ++ rest =
        '[' :: (item.compact.toList ++ tail) := by
      rw [toList_array, toList_compactItems, List.cons_append, List.append_assoc,
        List.append_assoc]
      rfl
    -- the first item is read behind the bracket, the others behind their commas
    have ends : EndsNumber tail := endsNumber_flatMap _ items (.inl rfl) rest
    have first := reads item List.mem_cons_self tail ends
    have others := readItems?_of_reads
      (fun other mem => reads other (List.mem_cons_of_mem item mem))
      (fun other mem => legible other (List.mem_cons_of_mem item mem)) enough [item.asRead] rest
    obtain ⟨c, s, start, solid, opens⟩ := head?_compact (legible item List.mem_cons_self)
    rw [text, start, List.cons_append, readValue?_bracket solid opens, ← List.cons_append, ← start,
      first, asRead, itemsAsRead_eq_map]
    exact others

/-- **An object is read** if the values of its members are. -/
theorem reads_object {members : List (String × Json)}
    (reads : ∀ member ∈ members, Reads (readValue? fuel level) member.2)
    (legible : ∀ member ∈ members, member.2.allLegible) (enough : members.length ≤ fuel)
    (inner : level ≠ 0) : Reads (readValue? fuel (level + 1)) (object members) := by
  intro rest _
  cases members with
  | nil =>
    rw [toList_object]
    exact if_neg inner
  | cons member members =>
    let tail := members.flatMap (fun member => ',' :: memberText member) ++ '\x7d' :: rest
    have text : (object (member :: members)).compact.toList ++ rest =
        '\x7b' :: (memberText member ++ tail) := by
      rw [toList_object, toList_compactMembers, List.cons_append, List.append_assoc,
        List.append_assoc]
      rfl
    -- the first member is read behind the brace, the others behind their commas
    have ends : EndsNumber tail := endsNumber_flatMap _ members (.inr rfl) rest
    have first := readMember?_of_reads (reads member List.mem_cons_self)
      (legible member List.mem_cons_self) ends
    have others := readMembers?_of_reads
      (fun other mem => reads other (List.mem_cons_of_mem member mem))
      (fun other mem => legible other (List.mem_cons_of_mem member mem)) enough
      [(member.1, member.2.asRead)] rest
    have quoted (tail : List Char) : ∃ s, memberText member ++ tail = '\x22' :: s := by
      rw [memberText, Json.quoted, String.toList_ofList]
      exact ⟨_, rfl⟩
    obtain ⟨s, start⟩ := quoted tail
    rw [text, start, readValue?_brace, ← start, first, asRead, membersAsRead_eq_map]
    exact others

/-- **An integer is read** if it has at most 64 bits, signed when it is negative. -/
theorem reads_int {n : Int} (legible : isLegible (int n)) :
    Reads (readValue? fuel (level + 1)) (int n) := by
  intro rest ends
  obtain ⟨least, most⟩ := Bool.and_eq_true_iff.1 legible
  have least : Number.minInt64 ≤ n := of_decide_eq_true least
  have most : n ≤ Number.maxNat64 := of_decide_eq_true most
  rw [compact, Number.intText, String.toList_ofList]
  cases n with
  | ofNat n =>
    obtain ⟨c, s, text⟩ := List.exists_cons_of_ne_nil (Nat.toDigits_ne_nil (n := n) (b := 10))
    have mem : c ∈ Nat.toDigits 10 n := text ▸ List.mem_cons_self
    have read := readNumber?_natDigits false (Int.ofNat_le.1 most) nofun ends
    -- the first digit tells the reader that a number without a sign follows
    change readValue? fuel (level + 1) (Nat.toDigits 10 n ++ rest) = _
    rw [text, List.cons_append, readValue?_digit (Number.isDigit_natDigits n c mem),
      ← List.cons_append, ← text]
    exact read
  | negSucc n =>
    -- with the hyphen in front there is room for one more number
    have small : n + 1 ≤ 9223372036854775808 := by
      rw [Number.minInt64] at least
      omega
    have fits : n + 1 ≤ Number.maxNat64 := small.trans (by decide)
    exact readNumber?_natDigits true fits (fun _ => ⟨Nat.succ_pos n, small⟩) ends

/-- **A double is read** as it is read alone. -/
theorem reads_real {x : Double} (legible : isLegible (real x)) :
    Reads (readValue? fuel (level + 1)) (real x) := by
  intro rest ends
  rcases readNumber?_of_readValue? (readValue?_json legible) with
    ⟨c, s, text, digit, read⟩ | ⟨s, text, read⟩
  · rw [compact, text, List.cons_append, readValue?_digit digit]
    rw [text] at read
    exact isLocal_readNumber? ends read
  · rw [compact, text, List.cons_append, readValue?_minus]
    exact isLocal_readNumber? ends read

/-- **A text is read** from its quotation marks. -/
theorem reads_text (value : String) : Reads (readValue? fuel (level + 1)) (text value) := by
  intro rest _
  have quoted := readString?_flatMap_escaped value.toList [] rest
  rw [List.reverse_nil, List.nil_append, String.ofList_toList] at quoted
  rw [compact, Json.quoted, String.toList_ofList, List.cons_append, List.append_assoc,
    readValue?_mark, List.singleton_append, quoted]
  rfl

/-- **A value is read off the front of its text**, if there are enough levels for it and its scalars
can be read. -/
theorem reads_readValue? {value : Json} (legible : value.allLegible) (deep : value.levels ≤ level)
    (fits : value.compact.toList.length ≤ fuel) : Reads (readValue? fuel level) value := by
  -- the induction is on the levels that are left: what is in an array or an object has one less
  induction level generalizing value with
  | zero => cases value <;> cases deep
  | succ level ih =>
    cases value with
    | null => exact fun rest _ => rfl
    | bool value =>
      cases value with
      | true => exact fun rest _ => rfl
      | false => exact fun rest _ => rfl
    | int n => exact reads_int legible
    | real x => exact reads_real legible
    | text value => exact reads_text value
    | array items =>
      have inner := eachItem_iff.1 legible
      -- no item is longer than the array, and there are fewer than it has characters
      obtain ⟨count, each⟩ := length_le_array items
      have below : itemLevels items ≤ level := Nat.le_of_succ_le_succ deep
      refine reads_array (fun item mem => ?_) inner (count.trans fits) ?_
      · exact ih (inner item mem) ((levels_le_of_mem mem).trans below) ((each item mem).trans fits)
      · exact Nat.ne_of_gt ((itemLevels_pos items).trans_le below)
    | object members =>
      have inner := fun member mem => (eachMember_iff.1 legible member mem).2
      obtain ⟨count, each⟩ := length_le_object members
      have below : itemLevels (members.map Prod.snd) ≤ level :=
        memberLevels_eq members ▸ Nat.le_of_succ_le_succ deep
      refine reads_object (fun member mem => ?_) inner (count.trans fits) ?_
      · have value : member.2 ∈ members.map Prod.snd := List.mem_map_of_mem mem
        exact ih (inner member mem) ((levels_le_of_mem value).trans below)
          ((each member mem).trans fits)
      · exact Nat.ne_of_gt ((itemLevels_pos _).trans_le below)

end Values

/-- **A text is read as the value that it was written for**, with its doubles as they are read, if
it is not nested too deep. -/
theorem read?_compact {value : Json} (legible : value.allLegible)
    (deep : value.levels ≤ maxLevels) : read? value.compact = some value.asRead := by
  have whole := reads_readValue? legible deep (Nat.le_refl _) [] endsNumber_nil
  have start := skipGap_compact legible []
  rw [List.append_nil] at whole start
  rw [read?, start, whole]
  rfl

end Json

end EntitySearch
