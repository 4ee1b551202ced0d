import EntitySearch.Database.Statement
import EntitySearch.Database.Table
import EntitySearch.Proofs.Search.Evaluation
import EntitySearch.Service
import Mathlib

/-!
# What the text of a statement depends on

Whatever a user gives is a parameter of a statement. So two searches have statements of the same
text as soon as their filters have the same shape and the same outlines at their leaves, where an
outline says of a comparison what its clause has to know: the operation, whether the attribute is
behind a relation to many, whether the value is null, and how long it is if it is a list.

The comparison of two runs starts at the leaves. Comparisons with one outline have clauses with one
text (`Condition.text_ofComparison_congr`), and a filter puts the texts of its leaves together in a
way that its shape decides on (`text_fragment_congr`). A filter has the shape of the compiled tree
of its request, and the outlines of the criteria of the tree (`Request.shape_filter`,
`Request.outlines_filter`), so all of it can be said about the requests
(`Service.text_eq_of_outlines`).
-/

namespace EntitySearch

/-! ### Shapes of filters -/

namespace Filter

variable {α β : Type}

/-- **The shape of a filter**: the tree without what its leaves stand for. -/
def shape (filter : Filter α) : Filter Unit := filter.map fun _ => ()

theorem shape_and (children : List (Filter α)) :
    (and children).shape = and (children.map shape) := map_and _ children

theorem shape_or (children : List (Filter α)) : (or children).shape = or (children.map shape) :=
  map_or _ children

theorem shape_map (f : α → β) (filter : Filter α) : (filter.map f).shape = filter.shape :=
  map_substitute _ _ filter

theorem length_leaves_of_shape {a : Filter α} {b : Filter β} (same : a.shape = b.shape) :
    a.leaves.length = b.leaves.length := by
  have lengths := congrArg (fun filter => filter.leaves.length) same
  simpa [shape] using lengths

/-- **Filters side by side**: a property of two filters of one shape, whose leaves are alike in
order, follows from that of their children. -/
theorem induct₂ {R : α → β → Prop} {motive : Filter α → Filter β → Prop} (all : motive all all)
    (leaf : ∀ a b, R a b → motive (leaf a) (leaf b))
    (and : ∀ children others, List.Forall₂ motive children others →
      motive (and children) (and others))
    (or : ∀ children others, List.Forall₂ motive children others →
      motive (or children) (or others))
    {a : Filter α} {b : Filter β} (shape : a.shape = b.shape)
    (alike : List.Forall₂ R a.leaves b.leaves) : motive a b := by
  -- the leaves of a list of filters are divided among them as the shapes say
  have divide {children : List (Filter α)} {others : List (Filter β)}
      (ih : ∀ child ∈ children, ∀ {b : Filter β}, child.shape = b.shape →
        List.Forall₂ R child.leaves b.leaves → motive child b)
      (shapes : children.map Filter.shape = others.map Filter.shape)
      (alike : List.Forall₂ R (children.flatMap leaves) (others.flatMap leaves)) :
      List.Forall₂ motive children others := by
    induction children generalizing others with
    | nil =>
      obtain rfl := List.map_eq_nil_iff.1 shapes.symm
      exact List.Forall₂.nil
    | cons child children ih' =>
      cases others with
      | nil => cases shapes
      | cons other others =>
        obtain ⟨shape, shapes⟩ := List.cons.inj shapes
        rw [List.flatMap_cons, List.flatMap_cons] at alike
        -- filters of one shape have equally many leaves, so both lists are cut at one place
        have long := length_leaves_of_shape shape
        have first := List.forall₂_take child.leaves.length alike
        have rest := List.forall₂_drop child.leaves.length alike
        rw [List.take_left, long, List.take_left] at first
        rw [List.drop_left, long, List.drop_left] at rest
        exact List.Forall₂.cons (ih child List.mem_cons_self shape first)
          (ih' (fun child mem => ih child (List.mem_cons_of_mem _ mem)) shapes rest)
  induction a using Filter.induct generalizing b with
  | all =>
    cases b with
    | all => exact all
    | leaf _ | and _ | or _ => cases shape
  | leaf value =>
    cases b with
    | leaf other =>
      rw [leaves_leaf, leaves_leaf, List.forall₂_cons] at alike
      exact leaf value other alike.1
    | all | and _ | or _ => cases shape
  | and children ih =>
    cases b with
    | and others =>
      rw [shape_and, shape_and, Filter.and.injEq] at shape
      rw [leaves_and, leaves_and] at alike
      exact and children others (divide ih shape alike)
    -- other constructors have another shape
    | all | leaf _ | or _ => cases shape
  | or children ih =>
    cases b with
    | or others =>
      rw [shape_or, shape_or, Filter.or.injEq] at shape
      rw [leaves_or, leaves_or] at alike
      exact or children others (divide ih shape alike)
    | all | leaf _ | and _ => cases shape

end Filter

/-! ### Outlines of comparisons -/

/-- The length of a value that is a list. -/
def TypedValue.length? : TypedValue → Option Nat
  | .list items => some items.length
  | _ => none

/-- **The outline of a comparison**: what its clause has to know of it. -/
structure Comparison.Outline where
  operation : Operation
  related : Bool
  null : Bool
  length : Option Nat
  deriving DecidableEq, Repr

/-- The outline of a comparison. -/
def Comparison.outline (comparison : Comparison) : Comparison.Outline :=
  ⟨comparison.operation, comparison.target.manyJoin?.isSome, comparison.value.isNull,
    comparison.value.length?⟩

namespace Database

theorem length?_eq_zero_iff {value : TypedValue} : value.length? = some 0 ↔ value = .list [] := by
  cases value with
  | list items => simp [TypedValue.length?]
  | _ => simp [TypedValue.length?]

namespace Test

/-- The items of a membership test: those of a list, or a single value. -/
theorem exists_oneOf {operation : Operation} (membership : operation.isMembership = true)
    (value : TypedValue) :
    ∃ items, ofOperation operation value = some (oneOf (operation == .noneOf) items) ∧
      items.length = value.length?.getD 1 := by
  cases operation with
  | oneOf | noneOf =>
    cases value with
    | list items => exact ⟨items.map Parameter.ofTyped, rfl, by simp [TypedValue.length?]⟩
    | _ => exact ⟨[Parameter.ofTyped _], rfl, by simp [TypedValue.length?]⟩
  | _ => cases membership

section Texts

variable (source : String) (path : List String)

theorem text_like (negated : Bool) (pattern : String) :
    ((like negated pattern).fragment source path).text =
      "json_extract(" ++ source ++ ", ?) " ++ keyword negated "LIKE" ++ " ?" := rfl

theorem text_oneOf (negated : Bool) (items : List Parameter) :
    ((oneOf negated items).fragment source path).text =
      "json_extract(" ++ source ++ ", ?) " ++ keyword negated "IN" ++ " (" ++
        Text.joined ", " (List.replicate items.length "?") ++ ")" := by
  rw [← List.map_const']
  rfl

theorem text_compare (operation : Operation) (parameter : Parameter) :
    ((compare operation parameter).fragment source path).text =
      "json_extract(" ++ source ++ ", ?) " ++ symbol operation ++ " ?" := rfl

end Texts

/-- **The test of an operation** has the text that the operation, nullness and length say, whatever
the value and the path are. -/
theorem text_ofOperation_congr {v w : TypedValue} (null : v.isNull = w.isNull)
    (length : v.length? = w.length?) (operation : Operation) (source : String)
    (path path' : List String) :
    (ofOperation operation v).map (fun test => (test.fragment source path).text) =
      (ofOperation operation w).map fun test => (test.fragment source path').text := by
  -- a membership test has a place for each item
  have members (membership : operation.isMembership = true) :
      (ofOperation operation v).map (fun test => (test.fragment source path).text) =
        (ofOperation operation w).map fun test => (test.fragment source path').text := by
    obtain ⟨items, left, long⟩ := exists_oneOf membership v
    obtain ⟨others, right, long'⟩ := exists_oneOf membership w
    rw [left, right, Option.map_some, Option.map_some, text_oneOf, text_oneOf, long, long', length]
  cases operation with
  | isNull | isNotNull => rfl
  | like | notLike => simp only [ofOperation, Option.map_some, text_like]
  | oneOf | noneOf => exact members rfl
  | equals | notEquals | greater | greaterEqual | less | lessEqual =>
    -- nullness decides whether there is a test, and its text names the operation only
    simp only [ofOperation, null]
    split
    · rw [Option.map_none, Option.map_none]
    · rw [Option.map_some, Option.map_some, text_compare, text_compare]

end Test

namespace Condition

/-- The text for a test of elements that may be missing. -/
theorem text_elementFragment (path : List String) (test : Option Test) :
    (elementFragment path test).text =
      (test.map fun test => (test.fragment "j.value" path).text).getD "0" := by
  cases test <;> rfl

theorem text_related (relation : String) (path : List String) (test : Option Test) :
    (related relation path test).fragment.text =
      "EXISTS (SELECT 1 FROM json_each(e.data, ?) AS j WHERE " ++
        (elementFragment path test).text ++ ")" := rfl

/-- **The text for a comparison**, by what its outline says and the text of its test. -/
theorem text_ofComparison (c : Comparison) :
    (ofComparison c).fragment.text =
      if c.operation = .oneOf ∧ c.value.length? = some 0 then "0"
      else if c.operation = .noneOf ∧ c.value.length? = some 0 then "1"
      else if c.target.manyJoin?.isSome then
        "EXISTS (SELECT 1 FROM json_each(e.data, ?) AS j WHERE " ++
          ((Test.ofOperation c.operation c.value).map fun test =>
            (test.fragment "j.value" c.target.path).text).getD "0" ++ ")"
      else
        ((Test.ofOperation c.operation c.value).map fun test =>
          (test.fragment "e.data" c.target.documentPath).text).getD "0" := by
  unfold ofComparison
  split
  · next operation value =>
    -- no value is one of an empty list, and every value is none of it
    rw [if_pos ⟨operation, length?_eq_zero_iff.2 value⟩]
    rfl
  · next operation value =>
    have other : c.operation ≠ .oneOf := by simp [operation]
    rw [if_neg fun both => other both.1, if_pos ⟨operation, length?_eq_zero_iff.2 value⟩]
    rfl
  · next oneOf noneOf =>
    -- in all other cases the join decides where the test looks
    rw [if_neg fun both => oneOf both.1 (length?_eq_zero_iff.1 both.2),
      if_neg fun both => noneOf both.1 (length?_eq_zero_iff.1 both.2)]
    generalize Test.ofOperation c.operation c.value = test
    cases c.target.manyJoin? with
    | some join => rw [Option.isSome_some, if_pos rfl, text_related, text_elementFragment]
    | none =>
      rw [Option.isSome_none, if_neg Bool.false_ne_true]
      cases test <;> rfl

/-- **Comparisons with one outline** have clauses with one text. -/
theorem text_ofComparison_congr {a b : Comparison} (same : a.outline = b.outline) :
    (ofComparison a).fragment.text = (ofComparison b).fragment.text := by
  obtain ⟨operation, related, null, length⟩ := Comparison.Outline.mk.inj same
  have tests := Test.text_ofOperation_congr null length b.operation
  rw [text_ofComparison, text_ofComparison, operation, related, length,
    tests "j.value" a.target.path b.target.path,
    tests "e.data" a.target.documentPath b.target.documentPath]

end Condition

/-! ### Filters and statements -/

/-- Clauses whose texts agree one by one. -/
abbrev Fragment.Alike : List Fragment → List Fragment → Prop :=
  List.Forall₂ fun part other => part.text = other.text

section Texts

variable {parts others : List Fragment}

theorem Fragment.Alike.text_join (alike : Alike parts others) (operator : String) :
    (join operator parts).text = (join operator others).text := by
  have bracketed : (parts.map fun part => "(" ++ part.text ++ ")") =
      others.map fun part => "(" ++ part.text ++ ")" := by
    rw [← List.forall₂_eq_eq_eq, List.forall₂_map_left_iff, List.forall₂_map_right_iff]
    exact alike.imp fun _ _ same => by rw [same]
  exact congrArg (Text.joined operator) bracketed

/-- A single clause stands without parentheses, so the number of clauses matters, too. -/
theorem Fragment.Alike.text_all (alike : Alike parts others) :
    (all parts).text = (all others).text := by
  match alike with
  | .nil => rfl
  | .cons same .nil => exact same
  | .cons same (.cons next rest) => exact text_join (.cons same (.cons next rest)) " AND "

theorem Fragment.Alike.text_any (alike : Alike parts others) :
    (any parts).text = (any others).text := by
  match alike with
  | .nil => rfl
  | .cons same .nil => exact same
  | .cons same (.cons next rest) => exact text_join (.cons same (.cons next rest)) " OR "

end Texts

theorem conditions_and (children : List (Filter Comparison)) :
    conditions (.and children) = .and (children.map conditions) := Filter.map_and _ children

theorem conditions_or (children : List (Filter Comparison)) :
    conditions (.or children) = .or (children.map conditions) := Filter.map_or _ children

/-- **Filters of one shape with the same outlines** at their leaves have clauses with one text. -/
theorem text_fragment_congr {a b : Filter Comparison} (shape : a.shape = b.shape)
    (outlines : a.leaves.map Comparison.outline = b.leaves.map Comparison.outline) :
    (fragment (conditions a)).text = (fragment (conditions b)).text := by
  -- equal lists of outlines are leaves with equal outlines in order
  have alike : List.Forall₂ (fun c d => Comparison.outline c = Comparison.outline d)
      a.leaves b.leaves := by
    rw [← List.forall₂_eq_eq_eq] at outlines
    simpa only [List.forall₂_map_left_iff, List.forall₂_map_right_iff] using outlines
  -- one shape takes both filters through the same cases
  refine Filter.induct₂
    (motive := fun a b => (fragment (conditions a)).text = (fragment (conditions b)).text)
    rfl ?_ ?_ ?_ shape alike
  · intro c d same
    exact Condition.text_ofComparison_congr same
  · intro children others alike
    -- a conjunction joins the texts of its parts, whatever they are
    rw [conditions_and, conditions_and, fragment_and, fragment_and]
    refine Fragment.Alike.text_all ?_
    simpa only [List.forall₂_map_left_iff, List.forall₂_map_right_iff] using alike
  · intro children others alike
    rw [conditions_or, conditions_or, fragment_or, fragment_or]
    refine Fragment.Alike.text_any ?_
    simpa only [List.forall₂_map_left_iff, List.forall₂_map_right_iff] using alike

theorem text_fetchStatement (fetch : Fetch) (filter : Filter Condition) :
    (fetchStatement fetch filter).text =
      "SELECT e.id, " ++ (columns fetch.projection).text ++
        " FROM entities e WHERE e.entity_type = ? AND (" ++ (fragment filter).text ++
        ") ORDER BY json_extract(e.data, ?) " ++ directionText fetch.direction ++
        ", e.rowid ASC LIMIT ? OFFSET ?" := rfl

theorem text_countStatement (entity : String) (filter : Filter Condition) :
    (countStatement entity filter).text =
      "SELECT COUNT(*) FROM entities e WHERE e.entity_type = ? AND (" ++ (fragment filter).text ++
        ")" := rfl

theorem text_columns_congr {p q : Option (List Attribute)}
    (same : p.map List.length = q.map List.length) : (columns p).text = (columns q).text := by
  cases p with
  | none =>
    cases q with
    | none => rfl
    | some others => cases same
  | some shown =>
    cases q with
    | none => cases same
    | some others =>
      have long : shown.length = others.length := Option.some.inj same
      simp only [columns, List.map_const', long]

end Database

/-! ### Requests -/

/-- A tree whose leaves all have predicates becomes the tree of these predicates. -/
theorem Filter.map_substitute_ofId {α β : Type} {known : List (String × α)} {tree : Filter String}
    (f : α → β) (found : ∀ id ∈ tree.leaves, (Named.get? id known).isSome) :
    (tree.substitute (Filter.ofId known)).map (some ∘ f) =
      tree.map fun id => (Named.get? id known).map f := by
  rw [map_substitute]
  refine substitute_congr fun id below => ?_
  obtain ⟨predicate, there⟩ := Option.isSome_iff_exists.1 (found id below)
  change (ofId known id).map (some ∘ f) = leaf ((Named.get? id known).map f)
  rw [ofId, there]
  rfl

namespace Request

variable {request : Request} {registry : Registry} {config : Config} {entity : String}

/-- **The outline of the comparison of a criterion**, by the id of the criterion. -/
def outline? (request : Request) (registry : Registry) (config : Config) (entity id : String) :
    Option Comparison.Outline :=
  (request.criterion? id).bind fun criterion =>
    (criterion.comparison registry config entity).toOption.map Comparison.outline

/-- **The outlines of a filter** are those of the criteria of its tree. -/
theorem map_outline_filter {filter : Filter Comparison} {tree : Filter String}
    (made : request.filter registry config entity = .ok filter)
    (compiles : request.compile = .ok tree) :
    filter.map (some ∘ Comparison.outline) =
      tree.map (request.outline? registry config entity) := by
  obtain ⟨tree', known, compiles', listed, rfl⟩ := filterOf_eq_ok_iff.1 made
  obtain rfl : tree' = tree := Except.ok.inj (compiles'.symm.trans compiles)
  have found (id : String) (below : id ∈ tree'.leaves) := exists_of_mem_leaves compiles listed below
  rw [Filter.map_substitute_ofId Comparison.outline fun id below =>
    Option.isSome_iff_exists.2 ⟨_, (found id below).choose_spec.1⟩]
  refine Filter.map_congr fun id below => ?_
  obtain ⟨comparison, there, criterion, declared, compared⟩ := found id below
  rw [Criterion.predicate_ok] at compared
  rw [there, outline?, declared, Option.bind_some, compared]
  rfl

theorem shape_filter {filter : Filter Comparison} {tree : Filter String}
    (made : request.filter registry config entity = .ok filter)
    (compiles : request.compile = .ok tree) : filter.shape = tree.shape := by
  have shapes := congrArg Filter.shape (map_outline_filter made compiles)
  rwa [Filter.shape_map, Filter.shape_map] at shapes

theorem outlines_filter {filter : Filter Comparison} {tree : Filter String}
    (made : request.filter registry config entity = .ok filter)
    (compiles : request.compile = .ok tree) :
    (filter.leaves.map Comparison.outline).map some =
      tree.leaves.map (request.outline? registry config entity) := by
  have leaves := congrArg Filter.leaves (map_outline_filter made compiles)
  rwa [Filter.leaves_map, Filter.leaves_map, ← List.map_map] at leaves

end Request

namespace Service

open Database

/-- **The text of a statement never depends on what a user gives.** Two searches, by services and
over entity types of their own, have clauses of one text if the trees of their requests have one
shape and the criteria at their leaves have the same outlines. So do the statements that fetch a
page, for one direction and one number of projected attributes, and those that count. -/
theorem text_eq_of_outlines {first second : Service} {a b : Request} {entity other : String}
    {tree tree' : Filter String} {filter filter' : Filter Comparison}
    (compiles : a.compile = .ok tree) (compiles' : b.compile = .ok tree')
    (made : first.filter a entity = .ok filter) (made' : second.filter b other = .ok filter')
    (shape : tree.shape = tree'.shape)
    (outlines : tree.leaves.map (a.outline? first.registry first.config entity) =
      tree'.leaves.map (b.outline? second.registry second.config other)) :
    (fragment (conditions filter)).text = (fragment (conditions filter')).text ∧
      (∀ fetch fetch' : Fetch, fetch.direction = fetch'.direction →
        fetch.projection.map List.length = fetch'.projection.map List.length →
          (fetchStatement fetch (conditions filter)).text =
            (fetchStatement fetch' (conditions filter')).text) ∧
        ∀ name name' : String, (countStatement name (conditions filter)).text =
          (countStatement name' (conditions filter')).text := by
  -- resolving keeps the shape of the tree and the outlines at its leaves
  have clauses : (fragment (conditions filter)).text = (fragment (conditions filter')).text := by
    refine text_fragment_congr ?_ ?_
    · rw [Request.shape_filter made compiles, Request.shape_filter made' compiles', shape]
    · -- an outline of a request is optional, for an id may be unknown, but at the leaves all are
      -- known
      refine (List.map_injective_iff.2 (Option.some_injective _)) ?_
      rw [Request.outlines_filter made compiles, Request.outlines_filter made' compiles', outlines]
  -- around the clause stand the columns, whose number counts, and the direction
  refine ⟨clauses, fun fetch fetch' direction shown => ?_, fun name name' => ?_⟩
  · rw [text_fetchStatement, text_fetchStatement, text_columns_congr shown, clauses, direction]
  · rw [text_countStatement, text_countStatement, clauses]

/-- A service over one entity type with a text and a relation to many of another one. -/
def paired (entity text relation target name : String) : Service where
  registry := ⟨(NameMap.empty.insert entity
    ⟨entity, none, [⟨text, .text⟩, ⟨relation, .relation target true⟩]⟩).insert target
      ⟨target, none, [⟨name, .text⟩]⟩⟩

/-- A request for a text and for a related text among two. -/
def pairedRequest (group text related path path' : String) (value one two : String) : Request where
  groups := [⟨group, some .and, [text, related]⟩]
  criteria :=
    [⟨text, "", path, .equals, .text value⟩,
      ⟨related, "", path', .oneOf, .list [.text one, .text two]⟩]

/-- An attribute that is a text of the document. -/
def textAttribute (entity name : String) : Attribute := ⟨entity, none, [name], ⟨name, .text⟩⟩

/-- Whatever stands in the two requests, here quotes and an end of a clause, the texts agree. -/
theorem text_eq_of_outlines_paired :
    let tasks := paired "Task" "title" "watchers" "Person" "name"
    let notes := paired "Note" "body" "links" "Page" "url"
    let plain := pairedRequest "G" "C1" "C2" "title" "[watchers].name" "x" "a" "b"
    let quoted :=
      pairedRequest "') --" "?" ";" " note.body" "[ links ].url" "' OR '1'='1" "\"" "?) OR (1"
    let page : Fetch :=
      ⟨"Task", textAttribute "Task" "title", .ascending, 0, 10, some [textAttribute "Task" "title"]⟩
    let other : Fetch :=
      ⟨"Note", textAttribute "Note" "body", .ascending, 5, 1, some [textAttribute "Note" "body"]⟩
    ∃ filter filter', tasks.filter plain "Task" = .ok filter ∧
      notes.filter quoted "Note" = .ok filter' ∧
      (fragment (conditions filter)).text = (fragment (conditions filter')).text ∧
      (fetchStatement page (conditions filter)).text =
        (fetchStatement other (conditions filter')).text ∧
      (countStatement "Task" (conditions filter)).text =
        (countStatement "Note" (conditions filter')).text := by
  intro tasks notes plain quoted page other
  have compiles : plain.compile = .ok (.and [.leaf "C1", .leaf "C2"]) := by cbv
  have compiles' : quoted.compile = .ok (.and [.leaf "?", .leaf ";"]) := by cbv
  obtain ⟨filter, made⟩ : ∃ filter, tasks.filter plain "Task" = .ok filter := ⟨_, by cbv⟩
  obtain ⟨filter', made'⟩ : ∃ filter, notes.filter quoted "Note" = .ok filter := ⟨_, by cbv⟩
  have texts := text_eq_of_outlines compiles compiles' made made' (by cbv) (by cbv)
  exact ⟨filter, filter', made, made', texts.1, texts.2.1 page other rfl rfl,
    texts.2.2 "Task" "Note"⟩

end Service

end EntitySearch
