import EntitySearch.Filter.Basic
import EntitySearch.Request.Basic

/-!
# Filters of requests

The groups of a request form a graph: merged groups name groups and other merged groups, and the
merged group `FINAL_GROUP` is its root. The filter of the request is the tree that unfolds from the
root, together with all standalone groups, which no merged group names. A graph with a cycle, a
missing root or an id that names nothing has no filter; this holds for the parts that the root does
not reach, too.
-/

namespace EntitySearch

namespace Connective

/-- The filter that joins filters by a connective. -/
def join {α : Type} : Connective → List (Filter α) → Filter α
  | and, children => .and children
  | or, children => .or children

/-- The truth of parts that are joined by a connective: no parts at all are true under AND and
false under OR. -/
def combine : Connective → List Bool → Bool
  | and, parts => parts.all id
  | or, parts => parts.any id

@[simp] theorem holds_join {α : Type} (valuation : α → Bool) (connective : Connective)
    (children : List (Filter α)) :
    (connective.join children).holds valuation =
      connective.combine (children.map (Filter.holds valuation)) := by
  cases connective <;> simp [join, combine]

@[simp] theorem leaves_join {α : Type} (connective : Connective) (children : List (Filter α)) :
    (connective.join children).leaves = (children.map Filter.leaves).flatten := by
  cases connective <;> simp [join, List.flatMap]

end Connective

/-- The filter of a group: its criteria under its connective. -/
def Group.filter (group : Group) : Filter String :=
  (group.connective.getD .and).join (group.criteria.map .leaf)

namespace Request

/-- Checks that every criterion that a group lists is declared. -/
def checkCriteria (request : Request) : Except GraphFault Unit :=
  request.groups.forM fun group =>
    match group.criteria.find? fun id => (request.criterion? id).isNone with
    | some missing => .error (.unknownCriterion group.id missing)
    | none => .ok ()

/-- The filter of the first group of an id. -/
def groupFilter (request : Request) (id : String) : Except GraphFault (Filter String) :=
  match request.group? id with
  | some group => .ok group.filter
  | none => .error (.unknownGroup id)

/-- The filters of the merged groups that have been compiled, each with its id. -/
abbrev Compiled := List (String × Filter String)

/-- The merged groups that are not on a path. -/
def unmet (request : Request) (path : List String) : List String :=
  request.merged.names.filter fun id => id ∉ path

/-- A path that goes on to another merged group leaves fewer of them unmet. -/
theorem length_unmet_lt {request : Request} {path : List String} {id : String} {group : MergedGroup}
    (declared : request.merged.get? id = some group) (new : id ∉ path) :
    (request.unmet (path ++ [id])).length < (request.unmet path).length := by
  have there : id ∈ request.unmet path :=
    List.mem_filter.2
      ⟨NameMap.contains_iff.1 (NameMap.contains_of_get? declared), by simpa using new⟩
  have fewer : request.unmet (path ++ [id]) = (request.unmet path).filter (· ≠ id) := by
    simp [unmet, List.filter_filter, and_comm]
  rw [fewer]
  exact List.length_filter_lt_length_iff_exists.2 ⟨id, there, by simp⟩

mutual

/-- **Compiling an id.** `path` lists the merged groups that are being compiled, the outermost
first, and `done` those that have been compiled; none is compiled twice. An id names a merged group
rather than a group, and one that is on the path closes a cycle. -/
def compileId (request : Request) (path : List String) (done : Compiled) (id : String) :
    Except GraphFault (Filter String × Compiled) :=
  -- the table comes before the path: a merged group that is finished closes no cycle
  match Named.get? id done with
  | some filter => .ok (filter, done)
  | none =>
    if _ : id ∈ path then .error (.cycle (path ++ [id]))
    else
      match _ : request.merged.get? id with
      | none => (request.groupFilter id).map fun filter => (filter, done)
      | some group =>
        match compileIds request (path ++ [id]) done group.members with
        | .error fault => .error fault
        | .ok (children, done) =>
          let filter := group.connective.join children
          .ok (filter, (id, filter) :: done)
  termination_by ((request.unmet path).length, 0)
  decreasing_by exact Prod.Lex.left _ _ (length_unmet_lt (by assumption) (by assumption))

/-- Compiling ids from left to right. -/
def compileIds (request : Request) (path : List String) (done : Compiled) :
    List String → Except GraphFault (List (Filter String) × Compiled)
  | [] => .ok ([], done)
  | id :: rest =>
    match compileId request path done id with
    | .error fault => .error fault
    | .ok (first, done) =>
      match compileIds request path done rest with
      | .error fault => .error fault
      | .ok (others, done) => .ok (first :: others, done)
  termination_by ids => ((request.unmet path).length, ids.length + 1)

end

section Visits

variable {request : Request} {path : List String} {done : Compiled} {id : String}

/-- A merged group that has been compiled is not compiled again. -/
theorem compileId_of_done {filter : Filter String} (found : Named.get? id done = some filter) :
    request.compileId path done id = .ok (filter, done) := by
  rw [compileId, found]

/-- A merged group that is being compiled is not entered again. -/
theorem compileId_of_mem_path (missing : Named.get? id done = none) (onPath : id ∈ path) :
    request.compileId path done id = .error (.cycle (path ++ [id])) := by
  rw [compileId, missing]
  simp only [onPath, ↓reduceDIte]

/-- An id that is no merged group is looked up among the groups. -/
theorem compileId_of_undeclared (missing : Named.get? id done = none) (new : id ∉ path)
    (undeclared : request.merged.get? id = none) :
    request.compileId path done id =
      (request.groupFilter id).map fun filter => (filter, done) := by
  rw [compileId, missing]
  simp only [new, ↓reduceDIte]
  split
  · rfl
  · next declared =>
    rw [undeclared] at declared
    cases declared

/-- A merged group is compiled by compiling its members. -/
theorem compileId_of_declared {group : MergedGroup} (missing : Named.get? id done = none)
    (new : id ∉ path) (declared : request.merged.get? id = some group) :
    request.compileId path done id =
      match request.compileIds (path ++ [id]) done group.members with
      | .error fault => .error fault
      | .ok (children, done) =>
        .ok (group.connective.join children, (id, group.connective.join children) :: done) := by
  rw [compileId, missing]
  simp only [new, ↓reduceDIte]
  split
  · next undeclared =>
    rw [declared] at undeclared
    cases undeclared
  · next found =>
    rw [declared] at found
    obtain rfl := Option.some.inj found
    rfl

end Visits

/-- Checks that there is a root if there are merged groups. -/
def checkRoot (request : Request) : Except GraphFault Unit :=
  if !request.merged.entries.isEmpty && !request.merged.contains finalGroup then
    .error .missingRoot
  else .ok ()

/-- Compiles all merged groups, also those that the root does not reach, in the order of their ids.
Each starts with an empty path. -/
def compileMerged (request : Request) : Except GraphFault Compiled :=
  match request.compileIds [] [] request.merged.names with
  | .error fault => .error fault
  | .ok (_, done) => .ok done

/-- Whether some merged group names an id as a member. -/
def isMember (request : Request) (id : String) : Bool :=
  request.merged.values.any fun merged => merged.members.contains id

/-- The groups of which no group of the same id stands further in front. -/
def firstGroups : List Group → List Group
  | [] => []
  | group :: rest => group :: (firstGroups rest).filter fun other => other.id ≠ group.id

/-- **The standalone groups**: the first groups of their ids that are no merged groups and no
members of any. -/
def standalone (request : Request) : List Group :=
  (firstGroups request.groups).filter fun group =>
    !request.merged.contains group.id && !request.isMember group.id

/-- The conjunction of the parts of a filter; a single part stands for itself. -/
def conjoin : List (Filter String) → Filter String
  | [] => .all
  | [part] => part
  | parts => .and parts

theorem holds_conjoin (valuation : String → Bool) (parts : List (Filter String)) :
    (conjoin parts).holds valuation = parts.all (Filter.holds valuation) := by
  match parts with
  | [] => rfl
  | [part] => simp [conjoin]
  | first :: second :: rest => exact Filter.holds_and valuation (first :: second :: rest)

theorem leaves_conjoin (parts : List (Filter String)) :
    (conjoin parts).leaves = parts.flatMap Filter.leaves := by
  match parts with
  | [] => rfl
  | [part] => simp [conjoin]
  | first :: second :: rest => exact Filter.leaves_and (first :: second :: rest)

/-- **Compiling a request** into its filter. Faults are reported in the order of the groups, then of
the ids of the merged groups. -/
def compile (request : Request) : Except GraphFault (Filter String) := do
  request.checkCriteria
  request.checkRoot
  let done ← request.compileMerged
  .ok (conjoin ((Named.get? finalGroup done).toList ++ request.standalone.map Group.filter))

end Request

end EntitySearch
