import EntitySearch.Attribute.Resolve
import EntitySearch.Database.Path
import EntitySearch.Proofs.Metadata.Names
import EntitySearch.Proofs.Text.Words
import Mathlib

/-!
# Attribute paths are made of declared names

An attribute path is a text from outside, with dots, brackets and white space in it, and it ends up
in the paths of a database. What stands between is that a path resolves only along declared fields:
the result holds the names of fields and nothing of the text.

`Registry.Leads` says where a list of names leads, through embedded fields to a last one, and
`walk_eq_ok_iff` that following names finds exactly this. `Attribute.Declared` adds the join, and
every attribute that resolves is declared (`declared_of_resolve`). A declared field has an
identifier for a name, as all of a well-named registry do, and in an identifier there is no dot. So
the text of a path has one dot for each name, and cutting it there gives the names back
(`splitAt_pathText`).
-/

namespace EntitySearch

/-! ### Declared attributes -/

namespace Registry

/-- **A declared name**: some registered entity type declares a field of the name. -/
def Declares (registry : Registry) (name : String) : Prop :=
  ∃ key entity, registry.entity? key = some entity ∧ name ∈ entity.fields.map Field.name

/-- **Where names lead**: from an entity type through embedded fields to a last field. -/
inductive Leads (registry : Registry) : String → List String → Field → Prop
  | last {entity name : String} {field : Field}
      (found : registry.findField? entity name = some field) : Leads registry entity [name] field
  | inner {entity name inner : String} {rest : List String} {field last : Field}
      (found : registry.findField? entity name = some field)
      (embedded : field.type = .embedded inner) (behind : Leads registry inner rest last) :
      Leads registry entity (name :: rest) last

end Registry

/-- **A declared attribute**: its path leads to its field, from the searched entity type or from the
target of a declared relation. -/
inductive Attribute.Declared (registry : Registry) : Attribute → Prop
  | plain {owner : String} {path : List String} {field : Field}
      (leads : registry.Leads owner path field) : Declared registry ⟨owner, none, path, field⟩
  | joined {owner relation target : String} {many : Bool} {path : List String}
      {found field : Field} (look : registry.findField? owner relation = some found)
      (type : found.type = .relation target many) (leads : registry.Leads target path field) :
      Declared registry ⟨owner, some ⟨relation, target, many⟩, path, field⟩

namespace Registry

variable {registry : Registry}

/-! ### Looking up fields -/

/-- A field that an entity type declares has the name that was asked for. -/
theorem name_of_field? {entity : Entity} {name : String} {field : Field}
    (found : entity.field? name = some field) :
    field.name = name ∧ name ∈ entity.fields.map Field.name := by
  have named : field.name = name := by simpa using List.find?_some found
  exact ⟨named, named ▸ List.mem_map_of_mem (List.mem_of_find?_eq_some found)⟩

/-- **A field that is found** has the name that was asked for, and a registered entity type declares
it: the one that is searched or a superclass. -/
theorem name_of_findFieldFrom? {name key : String} {levels : Nat} {entity : Entity} {field : Field}
    (registered : registry.entity? key = some entity)
    (found : registry.findFieldFrom? name levels entity = some field) :
    field.name = name ∧ registry.Declares name := by
  -- a field is the entity type's own, or it is found one level higher
  induction levels generalizing key entity with
  | zero =>
    unfold findFieldFrom? at found
    split at found
    · next own =>
      obtain rfl := Option.some.inj found
      obtain ⟨named, declared⟩ := name_of_field? own
      exact ⟨named, key, entity, registered, declared⟩
    · cases found
  | succ levels ih =>
    unfold findFieldFrom? at found
    split at found
    · next own =>
      obtain rfl := Option.some.inj found
      obtain ⟨named, declared⟩ := name_of_field? own
      exact ⟨named, key, entity, registered, declared⟩
    · simp only at found
      split at found
      · next parent above =>
        obtain ⟨superclass, _, above⟩ := Option.bind_eq_some_iff.1 above
        exact ih above found
      · cases found

theorem name_of_findField? {entity name : String} {field : Field}
    (found : registry.findField? entity name = some field) :
    field.name = name ∧ registry.Declares name := by
  obtain ⟨start, registered, found⟩ := Option.bind_eq_some_iff.1 found
  exact name_of_findFieldFrom? registered found

/-! ### Following names -/

theorem Leads.isEmpty {entity : String} {names : List String} {field : Field}
    (leads : registry.Leads entity names field) : names.isEmpty = false := by
  cases leads with
  | last _ => rfl
  | inner _ _ _ => rfl

/-- What following names gives: the names themselves, which lead to the field. -/
theorem leads_of_walk {entity : String} {names path : List String} {field : Field}
    (walked : registry.walk entity names = .ok (path, field)) :
    path = names ∧ registry.Leads entity names field := by
  induction names generalizing entity path with
  | nil => cases walked
  | cons name rest ih =>
    unfold walk at walked
    split at walked
    · cases walked
    · next first found =>
      -- a field is found under its own name, so the path repeats the names
      have named : first.name = name := (name_of_findField? found).1
      split at walked
      · next alone =>
        obtain rfl := List.isEmpty_iff.1 alone
        obtain ⟨rfl, rfl⟩ := Prod.mk.inj (Except.ok.inj walked)
        exact ⟨by rw [named], Leads.last found⟩
      · -- a name follows, so the field has to be an embedded one
        split at walked
        · next inner embedded =>
          split at walked
          · next behind =>
            obtain ⟨rfl, rfl⟩ := Prod.mk.inj (Except.ok.inj walked)
            obtain ⟨rfl, leads⟩ := ih behind
            exact ⟨by rw [named], Leads.inner found embedded leads⟩
          · cases walked
        · cases walked
        · cases walked

/-- **Following names** finds where they lead, and the path that it gives is the names. -/
theorem walk_eq_ok_iff {entity : String} {names path : List String} {field : Field} :
    registry.walk entity names = .ok (path, field) ↔
      path = names ∧ registry.Leads entity names field := by
  refine ⟨leads_of_walk, ?_⟩
  rintro ⟨rfl, leads⟩
  induction leads with
  | last found => simp [walk, found, (name_of_findField? found).1]
  | inner found embedded behind ih =>
    simp [walk, found, (name_of_findField? found).1, embedded, behind.isEmpty, ih]

theorem Leads.declares {entity : String} {names : List String} {field : Field}
    (leads : registry.Leads entity names field) : ∀ name ∈ names, registry.Declares name := by
  induction leads with
  | last found => exact List.forall_mem_singleton.2 (name_of_findField? found).2
  | inner found _ _ ih => exact List.forall_mem_cons.2 ⟨(name_of_findField? found).2, ih⟩

/-! ### Resolving -/

theorem joinOf_eq_ok {entity : Entity} {relation : String} {join : Join}
    (joined : registry.joinOf entity relation = .ok join) :
    join.relation = relation ∧ ∃ field, registry.findField? entity.name relation = some field ∧
      field.type = .relation join.target join.many := by
  unfold joinOf at joined
  split at joined
  · cases joined
  · next field found =>
    split at joined
    · next type =>
      obtain rfl := Except.ok.inj joined
      exact ⟨rfl, field, found, type⟩
    · cases joined

/-- **An attribute path resolves to a declared attribute.** -/
theorem declared_of_resolve {entity path : String} {a : Attribute}
    (resolved : registry.resolve entity path = .ok a) : a.Declared registry := by
  -- the outer function changes errors only
  have found : registry.resolvePath entity path = .ok a := by
    unfold resolve at resolved
    split at resolved
    · next found =>
      obtain rfl := Except.ok.inj resolved
      exact found
    · cases resolved
  unfold resolvePath at found
  split at found
  · cases found
  · split at found
    · cases found
    · -- in brackets stands a relation
      unfold resolveJoined at found
      obtain ⟨⟨relation, rest⟩, _, found⟩ := Outcome.bind_eq_ok_iff.1 found
      obtain ⟨join, joined, found⟩ := Outcome.bind_eq_ok_iff.1 found
      obtain ⟨names, _, found⟩ := Outcome.bind_eq_ok_iff.1 found
      obtain ⟨⟨path, field⟩, walked, found⟩ := Outcome.bind_eq_ok_iff.1 found
      obtain rfl := Except.ok.inj found
      obtain ⟨rfl, relationField, look, type⟩ := joinOf_eq_ok joined
      obtain ⟨rfl, leads⟩ := walk_eq_ok_iff.1 walked
      exact Attribute.Declared.joined look type leads
    · -- any other text is a path of names
      unfold resolvePlain at found
      obtain ⟨names, _, found⟩ := Outcome.bind_eq_ok_iff.1 found
      obtain ⟨⟨path, field⟩, walked, found⟩ := Outcome.bind_eq_ok_iff.1 found
      obtain rfl := Except.ok.inj found
      obtain ⟨rfl, leads⟩ := walk_eq_ok_iff.1 walked
      exact Attribute.Declared.plain leads

end Registry

/-! ### The names of an attribute -/

namespace Attribute

/-- **The paths at which a database looks for an attribute**: from the document of the owner, and
across a join the one to the related entities and the one inside them. -/
def lookups (a : Attribute) : List (List String) :=
  match a.join with
  | some join => [a.documentPath, [join.relation], a.path]
  | none => [a.documentPath]

theorem Declared.declares {registry : Registry} {a : Attribute} (declared : a.Declared registry) :
    ∀ path ∈ a.lookups, ∀ name ∈ path, registry.Declares name := by
  cases declared with
  | plain leads => simpa [lookups, documentPath] using leads.declares
  | joined look _ leads =>
    have relation := (Registry.name_of_findField? look).2
    have inner := leads.declares
    simp only [lookups, documentPath, List.forall_mem_cons, List.not_mem_nil, false_imp_iff,
      implies_true, and_true]
    exact ⟨⟨relation, inner⟩, relation, inner⟩

end Attribute

namespace Database

/-! ### The text of a path -/

theorem not_mem_dot {name : String} (identifier : IsIdentifier name) : '.' ∉ name.toList :=
  identifier.not_mem rfl

theorem toList_pathText (path : List String) :
    (pathText path).toList = '$' :: path.flatMap fun name => '.' :: name.toList := by
  rw [pathText, String.toList_append, String.toList_join, List.flatMap_map]
  simp only [String.toList_append]
  rfl

/-- **Cutting the text of a path** at its dots gives the names back. -/
theorem splitAt_pathText {path : List String} (plain : ∀ name ∈ path, '.' ∉ name.toList) :
    Text.splitAt '.' (pathText path).toList = ['$'] :: path.map String.toList := by
  rw [toList_pathText]
  -- what stands in front of the next dot is one piece, whatever it is
  have pieces (front : List Char) (free : '.' ∉ front) :
      Text.splitAt '.' (front ++ path.flatMap fun name => '.' :: name.toList) =
        front :: path.map String.toList := by
    induction path generalizing front with
    | nil => rw [List.flatMap_nil, List.append_nil, Text.splitAt_of_not_mem free, List.map_nil]
    | cons name rest ih =>
      obtain ⟨first, others⟩ := List.forall_mem_cons.1 plain
      rw [List.flatMap_cons, List.cons_append, Text.splitAt_append free, ih others _ first,
        List.map_cons]
  exact pieces ['$'] (by simp)

end Database

/-- **A path of plain names**: declared identifiers, which the text of the path has one after
another and from which they can be read. -/
structure Registry.PlainPath (registry : Registry) (path : List String) : Prop where
  identifiers : ∀ name ∈ path, IsIdentifier name
  declared : ∀ name ∈ path, registry.Declares name
  text : (Database.pathText path).toList = '$' :: path.flatMap fun name => '.' :: name.toList
  pieces : Text.splitAt '.' (Database.pathText path).toList = ['$'] :: path.map String.toList

/-- **No text of a path gets into a path of the database.** -/
theorem Registry.Reached.plainPaths {registry : Registry} (reached : Reached registry) :
    registry.WellNamed ∧ ∀ entity text a, registry.resolve entity text = .ok a →
      ∀ path ∈ a.lookups, registry.PlainPath path := by
  have wellNamed := reached.wellNamed
  refine ⟨wellNamed, fun entity text a resolved path lookup => ?_⟩
  have declared := (declared_of_resolve resolved).declares path lookup
  -- every name of a lookup has been declared, and what is declared has been checked
  have identifiers : ∀ name ∈ path, IsIdentifier name := by
    intro name mem
    obtain ⟨key, entity, registered, declares⟩ := declared name mem
    obtain ⟨field, own, rfl⟩ := List.mem_map.1 declares
    exact (wellNamed.named key entity registered).fields field own
  have plain : ∀ name ∈ path, '.' ∉ name.toList := fun name mem =>
    Database.not_mem_dot (identifiers name mem)
  exact ⟨identifiers, declared, Database.toList_pathText path, Database.splitAt_pathText plain⟩

/-- Places, persons who live there, and tasks with watchers, registered one after another; a task
with a dot in the name of a field is refused. -/
def Registry.watched : Registry :=
  let entities : List Entity :=
    [⟨"Place", none, [⟨"city", .text⟩]⟩,
     ⟨"Person", none, [⟨"home", .embedded "Place"⟩]⟩,
     ⟨"Task", none, [⟨"a.b", .text⟩]⟩,
     ⟨"Task", none, [⟨"watchers", .relation "Person" true⟩]⟩]
  entities.foldl (fun registry entity => (registry.registerInPlace entity).2) empty

theorem Registry.Reached.plainPaths_watched :
    watched.resolve "Task" " [ watchers ].home. city" =
        .ok ⟨"Task", some ⟨"watchers", "Person", true⟩, ["home", "city"], ⟨"city", .text⟩⟩ ∧
      watched.WellNamed ∧ watched.PlainPath ["watchers", "home", "city"] ∧
      watched.PlainPath ["watchers"] ∧ watched.PlainPath ["home", "city"] := by
  have resolved : watched.resolve "Task" " [ watchers ].home. city" =
      .ok ⟨"Task", some ⟨"watchers", "Person", true⟩, ["home", "city"], ⟨"city", .text⟩⟩ := by
    cbv
  have reached : Reached watched :=
    (((Reached.empty.registered _).registered _).registered _).registered _
  have plain := reached.plainPaths.2 _ _ _ resolved
  refine ⟨resolved, reached.plainPaths.1, plain _ ?_, plain _ ?_, plain _ ?_⟩
  all_goals simp [Attribute.lookups, Attribute.documentPath]

end EntitySearch
