import EntitySearch.Proofs.Metadata.Paths
import Mathlib

/-!
# Reading the text of an attribute back

A path is written in many ways: with white space around its names, and with the name of the entity
type in front. The text of an attribute is one of them, and it is shown where a path is needed, so
it should lead to the same attribute again.

`Spells` says what a text says about an attribute, apart from how it is read, and
`resolve_eq_ok_iff` that an attribute is found exactly for the texts that spell it. So no reading is
looked at twice: `Spells.text` writes a spelling down, and `Spells.path` tells what a spelling
without a relation leads to. The two meet in `Reached.resolve_text`. The text of an attribute leads
back to it, with one exception: a path of two or more names without a relation that starts with a
field of the same name as the entity type. This name is taken for the one that may stand in front of
every path, and passed over. With the entity type in front there is no exception
(`Reached.resolve_ownedText`).
-/

namespace EntitySearch

namespace Text

/-! ### Names with dots between them -/

theorem toList_joined_cons_cons (name next : String) (rest : List String) :
    (joined "." (name :: next :: rest)).toList =
      name.toList ++ '.' :: (joined "." (next :: rest)).toList := by
  rw [joined, joined, String.intercalate_cons_cons, String.toList_append, String.toList_append,
    List.append_assoc]
  rfl

theorem joined_singleton (name : String) : joined "." [name] = name :=
  String.intercalate_singleton

/-- **Cutting names that were joined** at the dots gives the names back. -/
theorem splitAt_joined {names : List String} (plain : ∀ name ∈ names, '.' ∉ name.toList)
    (nonempty : names ≠ []) : splitAt '.' (joined "." names).toList = names.map String.toList := by
  induction names with
  | nil => exact absurd rfl nonempty
  | cons name rest ih =>
    obtain ⟨first, others⟩ := List.forall_mem_cons.1 plain
    cases rest with
    | nil => rw [joined_singleton, splitAt_of_not_mem first, List.map_singleton]
    | cons next rest =>
      rw [toList_joined_cons_cons, splitAt_append first, ih others (List.cons_ne_nil next rest)]
      rfl

/-- Nothing stands in names that were joined but the dots and what stands in a name. -/
theorem mem_joined {c : Char} {names : List String} (mem : c ∈ (joined "." names).toList) :
    c = '.' ∨ ∃ name ∈ names, c ∈ name.toList := by
  induction names with
  | nil => cases mem
  | cons name rest ih =>
    cases rest with
    | nil =>
      rw [joined_singleton] at mem
      exact Or.inr ⟨name, List.mem_cons_self, mem⟩
    | cons next rest =>
      rw [toList_joined_cons_cons, List.mem_append, List.mem_cons] at mem
      -- in the first name, between the first two, or behind
      rcases mem with mem | dot | mem
      · exact Or.inr ⟨name, List.mem_cons_self, mem⟩
      · exact Or.inl dot
      · rcases ih mem with dot | ⟨other, listed, mem⟩
        · exact Or.inl dot
        · exact Or.inr ⟨other, List.mem_cons_of_mem name listed, mem⟩

end Text

namespace Registry

variable {registry : Registry}

/-! ### What a path that resolves looks like -/

/-- **The names of a path** are its pieces without the white space around them, which leaves none of
them empty. -/
theorem segments_eq_ok_iff {s : List Char} {names : List String} :
    segments s = .ok names ↔
      (∀ piece ∈ Text.splitAt '.' s, Text.trim piece ≠ []) ∧
        names = (Text.splitAt '.' s).map fun piece => String.ofList (Text.trim piece) := by
  unfold segments
  simp only [List.map_map]
  split
  · next empty =>
    obtain ⟨piece, mem, empty⟩ := by simpa using empty
    simp only [reduceCtorEq, false_iff]
    exact fun read => read.1 piece mem empty
  · next full =>
    have full : ∀ piece ∈ Text.splitAt '.' s, Text.trim piece ≠ [] := by simpa using full
    rw [Except.ok.injEq, eq_comm]
    exact ⟨fun same => ⟨full, same⟩, And.right⟩

/-- **Reading a relation**: its name stands in front of the first closing bracket, and behind a dot
there follows a path, which is not blank and has no bracket that opens. -/
theorem relationAndRest_eq_ok_iff {s path : List Char} {name : String} :
    relationAndRest s = .ok (name, path) ↔
      ∃ front, ']' ∉ front ∧ s = front ++ ']' :: '.' :: path ∧
        name = String.ofList (Text.trim front) ∧ Text.trim path ≠ [] ∧ '[' ∉ path := by
  constructor
  · intro read
    have whole := List.takeWhile_append_dropWhile (p := (· ≠ ']')) (l := s)
    have closing := List.head?_dropWhile_not (· ≠ ']') s
    have free : ']' ∉ s.takeWhile (· ≠ ']') := fun mem => by
      simpa using List.mem_takeWhile_imp mem
    unfold relationAndRest at read
    -- what is left behind the name is looked at by cases, and stays the end of the text
    revert read whole closing
    generalize s.dropWhile (· ≠ ']') = back
    intro read whole closing
    split at read
    · cases read
    · next c rest =>
      obtain rfl : c = ']' := by simpa using closing
      simp only at read
      split at read
      · next path' =>
        split at read
        · cases read
        · next shown =>
          split at read
          · cases read
          · next single =>
            obtain ⟨rfl, rfl⟩ := Prod.mk.inj (Except.ok.inj read)
            exact ⟨_, free, whole.symm, rfl, by simpa using shown, by simpa using single⟩
      · cases read
  · rintro ⟨front, free, rfl, rfl, shown, single⟩
    -- read forwards, the bracket is the first one that closes
    have before : ∀ c ∈ front, decide (c ≠ ']') = true := fun c mem =>
      decide_eq_true fun same => free (same ▸ mem)
    unfold relationAndRest
    rw [List.takeWhile_append_of_pos before, List.dropWhile_append_of_pos before]
    simp [shown, single]

/-- **What a text says about an attribute** of an entity type: the names of its path, or a relation
in brackets and the names behind it. -/
inductive Spells (registry : Registry) (start : Entity) : List Char → Attribute → Prop
  | plain {s : List Char} {names : List String} {field : Field} (unjoined : s.head? ≠ some '[')
      (read : segments s = .ok names)
      (leads : registry.Leads start.name (withoutOwner start names) field) :
      Spells registry start s ⟨start.name, none, withoutOwner start names, field⟩
  | joined {s rest : List Char} {relation : String} {join : Join} {names : List String}
      {field : Field} (split : relationAndRest s = .ok (relation, rest))
      (across : registry.joinOf start relation = .ok join) (read : segments rest = .ok names)
      (leads : registry.Leads join.target names field) :
      Spells registry start ('[' :: s) ⟨start.name, some join, names, field⟩

theorem resolvePlain_eq_ok_iff {start : Entity} {s : List Char} {a : Attribute} :
    registry.resolvePlain start s = .ok a ↔
      ∃ names field, segments s = .ok names ∧
        registry.Leads start.name (withoutOwner start names) field ∧
        a = ⟨start.name, none, withoutOwner start names, field⟩ := by
  simp only [resolvePlain, Outcome.bind_eq_ok_iff, Prod.exists, walk_eq_ok_iff, Except.ok.injEq]
  constructor
  · rintro ⟨names, read, path, field, ⟨rfl, leads⟩, rfl⟩
    exact ⟨names, field, read, leads, rfl⟩
  · rintro ⟨names, field, read, leads, rfl⟩
    exact ⟨names, read, _, field, ⟨rfl, leads⟩, rfl⟩

theorem resolveJoined_eq_ok_iff {start : Entity} {s : List Char} {a : Attribute} :
    registry.resolveJoined start s = .ok a ↔
      ∃ relation rest join names field, relationAndRest s = .ok (relation, rest) ∧
        registry.joinOf start relation = .ok join ∧ segments rest = .ok names ∧
        registry.Leads join.target names field ∧ a = ⟨start.name, some join, names, field⟩ := by
  simp only [resolveJoined, Outcome.bind_eq_ok_iff, Prod.exists, walk_eq_ok_iff, Except.ok.injEq]
  constructor
  · rintro ⟨relation, rest, split, join, across, _, read, names, field, ⟨rfl, leads⟩, rfl⟩
    exact ⟨relation, rest, join, names, field, split, across, read, leads, rfl⟩
  · rintro ⟨relation, rest, join, names, field, split, across, read, leads, rfl⟩
    exact ⟨relation, rest, split, join, across, names, read, _, field, ⟨rfl, leads⟩, rfl⟩

/-- **An attribute is found** exactly for the paths that spell it when the white space around them
is taken off. -/
theorem resolve_eq_ok_iff {entity path : String} {a : Attribute} :
    registry.resolve entity path = .ok a ↔
      ∃ start, registry.entity? entity = some start ∧
        registry.Spells start (Text.trim path.toList) a := by
  -- the outer function changes errors only
  have whole : registry.resolve entity path = .ok a ↔ registry.resolvePath entity path = .ok a := by
    unfold resolve
    split
    · next found => rw [found, Except.ok.injEq, Except.ok.injEq]
    · next failed => simp [failed]
  rw [whole, resolvePath]
  cases registry.entity? entity with
  | none => simp
  | some start =>
    simp only [Option.some.injEq, exists_eq_left']
    split
    · next empty =>
      -- an empty text has one piece, which is empty
      rw [empty]
      simp only [reduceCtorEq, false_iff]
      intro spelled
      cases spelled with
      | plain _ read _ => cases read
    · next rest bracket =>
      -- a bracket in front leaves the spelling of a relation only
      rw [bracket, resolveJoined_eq_ok_iff]
      constructor
      · rintro ⟨relation, rest, join, names, field, split, across, read, leads, rfl⟩
        exact .joined split across read leads
      · intro spelled
        cases spelled with
        | plain unjoined _ _ => exact absurd rfl unjoined
        | joined split across read leads =>
          exact ⟨_, _, _, _, _, split, across, read, leads, rfl⟩
    · next unjoined =>
      -- without one it is a path of names
      rw [resolvePlain_eq_ok_iff]
      constructor
      · rintro ⟨names, field, read, leads, rfl⟩
        refine .plain (fun bracket => ?_) read leads
        obtain ⟨rest, split⟩ := List.head?_eq_some_iff.1 bracket
        exact unjoined rest split
      · generalize Text.trim path.toList = s at unjoined
        intro spelled
        cases spelled with
        | plain _ read leads => exact ⟨_, _, read, leads, rfl⟩
        | joined _ _ _ _ => exact absurd rfl (unjoined _)

/-- **What is spelled without a relation**: names that lead to the field, behind the name of the
owner or without it. -/
theorem Spells.path {start : Entity} {s : List Char} {a : Attribute}
    (spelled : registry.Spells start s a) (unjoined : a.join = none) :
    a.owner = start.name ∧ registry.Leads start.name a.path a.field ∧
      ∃ names, segments s = .ok names ∧ a.path = withoutOwner start names := by
  cases spelled with
  | plain _ read leads => exact ⟨rfl, leads, _, read, rfl⟩
  | joined => cases unjoined

end Registry

/-! ### The text of an attribute -/

/-- **A path that seems to start with its owner**: without a relation, two or more names, of which
the first is the name of the owner in some case. -/
def Attribute.StartsWithOwner (a : Attribute) : Prop :=
  a.join = none ∧ ∃ first second rest, a.path = first :: second :: rest ∧
    Text.sameIgnoringCase first a.owner = true

theorem Attribute.text_of_unjoined {a : Attribute} (unjoined : a.join = none) :
    a.text = Text.joined "." a.path := by
  rw [text, unjoined]

namespace Registry

/-- **The names of identifiers** with dots between them are read back. -/
theorem segments_joined {names : List String} (identifiers : ∀ name ∈ names, IsIdentifier name)
    (nonempty : names ≠ []) : segments (Text.joined "." names).toList = .ok names := by
  have pieces := Text.splitAt_joined (fun name mem => (identifiers name mem).not_mem rfl) nonempty
  rw [segments_eq_ok_iff, pieces, List.forall_mem_map, List.map_map]
  constructor
  · intro name mem
    rw [(identifiers name mem).noBlank.trim]
    exact (identifiers name mem).nonempty
  · conv_lhs => rw [← List.map_id names]
    exact List.map_congr_left fun name mem => (identifiers name mem).trimmed.symm

/-- In identifiers with dots between them there is no white space, and no bracket opens. -/
theorem plain_of_mem_joined {names : List String} (identifiers : ∀ name ∈ names, IsIdentifier name)
    {c : Char} (mem : c ∈ (Text.joined "." names).toList) : Text.isBlank c = false ∧ c ≠ '[' := by
  rcases Text.mem_joined mem with rfl | ⟨name, listed, mem⟩
  · decide
  · refine ⟨(identifiers name listed).noBlank c mem, ?_⟩
    rintro rfl
    exact (identifiers name listed).not_mem rfl mem

variable {registry : Registry} {start : Entity}

theorem withoutOwner_eq_self {names : List String}
    (other : ∀ first second rest, names = first :: second :: rest →
      Text.sameIgnoringCase first start.name = false) : withoutOwner start names = names := by
  unfold withoutOwner
  split
  · next first second rest => rw [if_neg (by simp [other first second rest rfl])]
  · rfl

/-- The name of the owner is passed over, whatever is behind it. -/
theorem withoutOwner_of_owner {first second : String} {rest : List String}
    (owner : Text.sameIgnoringCase first start.name = true) :
    withoutOwner start (first :: second :: rest) = second :: rest :=
  if_pos owner

/-- **Identifiers with dots between them** spell the attribute to which they lead. -/
theorem spells_joined {names : List String} {field : Field}
    (identifiers : ∀ name ∈ names, IsIdentifier name) (nonempty : names ≠ [])
    (leads : registry.Leads start.name (withoutOwner start names) field) :
    registry.Spells start (Text.joined "." names).toList
      ⟨start.name, none, withoutOwner start names, field⟩ :=
  .plain (fun bracket => (plain_of_mem_joined identifiers (List.mem_of_head? bracket)).2 rfl)
    (segments_joined identifiers nonempty) leads

section WellNamed

variable (wellNamed : registry.WellNamed)

include wellNamed

/-- A declared name is an identifier. -/
theorem WellNamed.isIdentifier_of_declares {name : String} (declares : registry.Declares name) :
    IsIdentifier name := by
  obtain ⟨key, entity, registered, declared⟩ := declares
  obtain ⟨field, own, rfl⟩ := List.mem_map.1 declared
  exact (wellNamed.named key entity registered).fields field own

theorem WellNamed.isIdentifier_of_leads {entity : String} {names : List String} {field : Field}
    (leads : registry.Leads entity names field) : ∀ name ∈ names, IsIdentifier name :=
  fun name mem => wellNamed.isIdentifier_of_declares (leads.declares name mem)

/-- **The text of an attribute spells it**, unless it seems to start with the owner. -/
theorem Spells.text {s : List Char} {a : Attribute} (spelled : registry.Spells start s a)
    (shown : ¬ a.StartsWithOwner) : registry.Spells start a.text.toList a := by
  cases spelled with
  | @plain _ names field _ _ leads =>
    have identifiers := wellNamed.isIdentifier_of_leads leads
    have nonempty := List.isEmpty_eq_false_iff.1 leads.isEmpty
    generalize withoutOwner start names = path at leads identifiers nonempty shown
    -- the first name is not that of the owner, so it is not passed over a second time
    have kept : withoutOwner start path = path := by
      refine withoutOwner_eq_self fun first second rest split => ?_
      exact Bool.eq_false_iff.2 fun owner => shown ⟨rfl, first, second, rest, split, owner⟩
    have again := spells_joined identifiers nonempty (kept.symm ▸ leads)
    rwa [kept] at again
  | @joined _ _ relation join names field _ across _ leads =>
    obtain ⟨rfl, found, look, _⟩ := joinOf_eq_ok across
    have identifier : IsIdentifier join.relation :=
      wellNamed.isIdentifier_of_declares (name_of_findField? look).2
    have identifiers := wellNamed.isIdentifier_of_leads leads
    have read := segments_joined identifiers (List.isEmpty_eq_false_iff.1 leads.isEmpty)
    have plain : Text.NoBlank (Text.joined "." names).toList := fun c mem =>
      (plain_of_mem_joined identifiers mem).1
    -- there is no bracket in the names, so the first one that closes is that of the relation
    have split : relationAndRest (join.relation.toList ++ ']' :: '.' ::
        (Text.joined "." names).toList) = .ok (join.relation, (Text.joined "." names).toList) := by
      refine relationAndRest_eq_ok_iff.2
        ⟨_, identifier.not_mem rfl, rfl, identifier.trimmed.symm, ?_, ?_⟩
      · rw [plain.trim]
        intro empty
        rw [empty] at read
        cases read
      · exact fun bracket => (plain_of_mem_joined identifiers bracket).2 rfl
    have text : (Attribute.mk start.name (some join) names field).text.toList =
        '[' :: (join.relation.toList ++ ']' :: '.' :: (Text.joined "." names).toList) := by
      simp [Attribute.text]
    rw [text]
    exact .joined split across read leads

/-- There is no white space in the text of an attribute. -/
theorem Spells.noBlank_text {s : List Char} {a : Attribute} (spelled : registry.Spells start s a) :
    Text.NoBlank a.text.toList := by
  cases spelled with
  | plain _ _ leads =>
    exact fun c mem => (plain_of_mem_joined (wellNamed.isIdentifier_of_leads leads) mem).1
  | joined _ across _ leads =>
    obtain ⟨rfl, found, look, _⟩ := joinOf_eq_ok across
    have identifier := wellNamed.isIdentifier_of_declares (name_of_findField? look).2
    have behind := wellNamed.isIdentifier_of_leads leads
    intro c mem
    simp only [Attribute.text, String.toList_append, List.mem_append] at mem
    -- brackets, the name of the relation and the names behind it are all there is
    rcases mem with ((bracket | mem) | bracket) | mem
    · obtain rfl : c = '[' := by simpa using bracket
      decide
    · exact identifier.noBlank c mem
    · obtain rfl | rfl : c = ']' ∨ c = '.' := by simpa using bracket
      all_goals decide
    · exact (plain_of_mem_joined behind mem).1

end WellNamed

/-- **The text of an attribute leads back to it**, unless it seems to start with the owner. -/
theorem Reached.resolve_text (reached : Reached registry) {entity path : String} {a : Attribute}
    (resolved : registry.resolve entity path = .ok a) :
    registry.resolve entity a.text = .ok a ↔ ¬ a.StartsWithOwner := by
  have wellNamed := reached.wellNamed
  obtain ⟨start, registered, spelled⟩ := resolve_eq_ok_iff.1 resolved
  rw [resolve_eq_ok_iff, (spelled.noBlank_text wellNamed).trim]
  constructor
  · rintro ⟨other, found, again⟩ ⟨unjoined, first, second, rest, split, owner⟩
    obtain rfl := Option.some.inj (found.symm.trans registered)
    obtain ⟨owned, leads, _, _, _⟩ := spelled.path unjoined
    obtain ⟨_, _, names, read, passed⟩ := again.path unjoined
    -- the names that are read are those of the path, and the first of them is passed over
    have identifiers := wellNamed.isIdentifier_of_leads leads
    have same := segments_joined identifiers (List.isEmpty_eq_false_iff.1 leads.isEmpty)
    rw [← Attribute.text_of_unjoined unjoined, read] at same
    obtain rfl := Except.ok.inj same
    rw [split, withoutOwner_of_owner (owned ▸ owner)] at passed
    exact List.cons_ne_self first _ passed
  · exact fun shown => ⟨start, registered, spelled.text wellNamed shown⟩

/-- Tasks with an embedded object of the same name. -/
def nestedTasks : Registry :=
  let entities : List Entity :=
    [⟨"TaskInfo", none, [⟨"age", .integer⟩]⟩,
     ⟨"Task", none, [⟨"age", .integer⟩, ⟨"task", .embedded "TaskInfo"⟩]⟩]
  entities.foldl (fun registry entity => (registry.registerInPlace entity).2) empty

theorem nestedTasks_reached : Reached nestedTasks := (Reached.empty.registered _).registered _

/-- Behind the entity type stands the field of its own. -/
theorem Reached.resolve_text_nestedTasks :
    nestedTasks.resolve "Task" " Task . age" = .ok ⟨"Task", none, ["age"], ⟨"age", .integer⟩⟩ ∧
      nestedTasks.resolve "Task" "age" = .ok ⟨"Task", none, ["age"], ⟨"age", .integer⟩⟩ := by
  have resolved : nestedTasks.resolve "Task" " Task . age" =
      .ok ⟨"Task", none, ["age"], ⟨"age", .integer⟩⟩ := by
    cbv
  refine ⟨resolved, (nestedTasks_reached.resolve_text resolved).2 ?_⟩
  rintro ⟨_, first, second, rest, split, _⟩
  cases split

/-- **A text that leads elsewhere**: the name of the field is passed over as that of the owner. -/
theorem text_leads_elsewhere : Reached nestedTasks ∧ ∃ a,
    nestedTasks.resolve "Task" "Task.task.age" = .ok a ∧ a.text = "task.age" ∧
      nestedTasks.resolve "Task" a.text ≠ .ok a := by
  refine ⟨nestedTasks_reached, ⟨"Task", none, ["task", "age"], ⟨"age", .integer⟩⟩, by cbv,
    by cbv, ?_⟩
  have other : nestedTasks.resolve "Task" "task.age" =
      .ok ⟨"Task", none, ["age"], ⟨"age", .integer⟩⟩ := by
    cbv
  rw [show Attribute.text _ = "task.age" by cbv, other]
  simp

/-- **With the owner in front**, the text of every attribute without a relation leads back to it. -/
theorem Reached.resolve_ownedText (reached : Reached registry) {entity path : String}
    {a : Attribute} (resolved : registry.resolve entity path = .ok a) (unjoined : a.join = none) :
    registry.resolve entity (a.owner ++ "." ++ a.text) = .ok a := by
  have wellNamed := reached.wellNamed
  obtain ⟨start, registered, spelled⟩ := resolve_eq_ok_iff.1 resolved
  obtain ⟨owned, leads, _⟩ := spelled.path unjoined
  obtain ⟨owner, join, names, field⟩ := a
  simp only at unjoined owned leads
  subst unjoined owned
  cases names with
  | nil => exact absurd leads.isEmpty (by simp)
  | cons name rest =>
    have identifiers : ∀ other ∈ start.name :: name :: rest, IsIdentifier other :=
      List.forall_mem_cons.2
        ⟨(wellNamed.named entity start registered).name, wellNamed.isIdentifier_of_leads leads⟩
    -- the owner is passed over, and the names behind it are those of the attribute
    have passed : withoutOwner start (start.name :: name :: rest) = name :: rest :=
      withoutOwner_of_owner (beq_self_eq_true _)
    have text : start.name ++ "." ++ (Attribute.mk start.name none (name :: rest) field).text =
        Text.joined "." (start.name :: name :: rest) :=
      String.intercalate_cons_cons.symm
    have tight : Text.NoBlank (Text.joined "." (start.name :: name :: rest)).toList :=
      fun c mem => (plain_of_mem_joined identifiers mem).1
    have owned := spells_joined identifiers (List.cons_ne_nil _ _) (passed.symm ▸ leads)
    rw [passed] at owned
    rw [text, resolve_eq_ok_iff, tight.trim]
    exact ⟨start, registered, owned⟩

end Registry

end EntitySearch
