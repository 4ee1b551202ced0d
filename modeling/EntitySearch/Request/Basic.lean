import EntitySearch.Error
import EntitySearch.Literal
import EntitySearch.Named
import EntitySearch.Operation
import EntitySearch.Uuid

/-!
# Requests

A request declares criteria, groups of criteria, and merged groups of groups and other merged
groups. Members are given by id. Requests are built up by adding criteria and merged groups, and
laid over one another by merging.
-/

namespace EntitySearch

/-- **A criterion**: an attribute of an entity type compared with a literal. -/
structure Criterion where
  id : String
  entity : String
  path : String
  operation : Operation
  value : Literal
  deriving BEq, Repr

/-- **A group of criteria** under a connective; a group without one joins its criteria by AND. -/
structure Group where
  id : String
  connective : Option Connective
  criteria : List String
  deriving DecidableEq, Repr

/-- **A merged group**: groups and merged groups under a connective. -/
structure MergedGroup where
  connective : Connective
  members : List String
  deriving DecidableEq, Repr

/-- **A request.** The flag `ownerScoped` tells whether a scope may add its owner group. -/
structure Request where
  groups : List Group := []
  criteria : List Criterion := []
  merged : NameMap MergedGroup := .empty
  ownerScoped : Bool := true

namespace Request

/-! ### Reserved ids -/

/-- The merged group that is the root of a request. -/
def finalGroup : String := "FINAL_GROUP"

/-- The group that restricts a search to entities of their owners. -/
def ownerGroup : String := "OWNER_ACCESS_GROUP"

/-- The group that leaves deleted entities out. -/
def deletedGroup : String := "DELETED_FALSE_CRITERIA_GROUP"

/-- The path to the ids of the owners of an entity. -/
def ownerPath : String := "[owners].id"

/-- The field that marks an entity as deleted. -/
def deletedField : String := "deleted"

/-! ### Looking up -/

/-- The request without any criteria. -/
def empty : Request := {}

/-- The first group of an id. -/
def group? (request : Request) (id : String) : Option Group := request.groups.find? (·.id = id)

/-- The first criterion of an id. -/
def criterion? (request : Request) (id : String) : Option Criterion :=
  request.criteria.find? (·.id = id)

/-- Whether there is a group of an id. -/
def hasGroup (request : Request) (id : String) : Bool := (request.group? id).isSome

theorem hasGroup_iff {request : Request} {id : String} :
    request.hasGroup id ↔ ∃ group ∈ request.groups, group.id = id := by
  simp [hasGroup, group?, List.find?_isSome]

/-- Whether the request has no groups of either sort. -/
def isEmpty (request : Request) : Bool := request.groups.isEmpty && request.merged.entries.isEmpty

/-! ### Building -/

/-- Appends a criterion to the first group of an id in a list of groups, or appends a new group with
the connective. -/
def appendTo (id : String) (connective : Option Connective) (criterion : String) :
    List Group → List Group
  | [] => [⟨id, connective, [criterion]⟩]
  | group :: rest =>
    if group.id = id then { group with criteria := group.criteria ++ [criterion] } :: rest
    else group :: appendTo id connective criterion rest

section AppendTo

variable {id criterion : String} {connective : Option Connective} {groups : List Group}

/-- A group that is not among the first ones is looked for among the others. -/
theorem appendTo_append (new : ∀ group ∈ groups, group.id ≠ id) (others : List Group) :
    appendTo id connective criterion (groups ++ others) =
      groups ++ appendTo id connective criterion others := by
  induction groups with
  | nil => rfl
  | cons group rest ih =>
    rw [List.cons_append, appendTo, if_neg (new group List.mem_cons_self),
      ih fun other mem => new other (List.mem_cons_of_mem _ mem)]
    rfl

/-- An id that no group has starts a new group. -/
theorem appendTo_of_new (new : ∀ group ∈ groups, group.id ≠ id) :
    appendTo id connective criterion groups = groups ++ [⟨id, connective, [criterion]⟩] := by
  have last : appendTo id connective criterion (groups ++ []) =
      groups ++ appendTo id connective criterion [] := appendTo_append new []
  rwa [List.append_nil] at last

end AppendTo

/-- **Adding a criterion** to a group. The first criterion of a group brings its connective. -/
def add (request : Request) (group : String) (connective : Option Connective)
    (criterion : Criterion) : Request :=
  { request with
    criteria := request.criteria ++ [criterion]
    groups := appendTo group connective criterion.id request.groups }

/-- Adds a criterion that compares the id of an entity. -/
def addIdEquals (request : Request) (criterion group entity : String) (value : Literal) : Request :=
  request.add group (some .and) ⟨criterion, entity, "id", .equals, value⟩

/-- Adds the group that leaves deleted entities out, with the ids for its two criteria. -/
def addNotDeleted (request : Request) (isFalse isNull entity : String) : Request :=
  (request.add deletedGroup (some .or) ⟨isFalse, entity, deletedField, .equals, .bool false⟩).add
    deletedGroup (some .or) ⟨isNull, entity, deletedField, .isNull, .null⟩

/-- Adds the group that restricts a search to entities of an owner, unless the request does not
allow it. -/
def addOwnerAccess (request : Request) (criterion entity : String) (owner : Uuid) : Request :=
  if request.ownerScoped then
    request.add ownerGroup (some .and) ⟨criterion, entity, ownerPath, .equals, .text owner.text⟩
  else request

/-- Sets whether a scope may add its owner group. -/
def setOwnerScoped (request : Request) (allowed : Bool) : Request :=
  { request with ownerScoped := allowed }

/-- **Declaring a merged group.** One of the same id is replaced. -/
def merge (request : Request) (id : String) (connective : Connective) (members : List String) :
    Request :=
  { request with merged := request.merged.insert id ⟨connective, members⟩ }

/-- An id after a renaming. -/
def renamed (old new id : String) : String := if id = old then new else id

/-- **Renaming a merged group**, in its declaration and wherever it is a member. -/
def rename (request : Request) (old new : String) : Except GraphFault Request :=
  if old = new then .ok request
  else if request.merged.contains new then .error (.mergedGroupExists new)
  else
    match request.merged.get? old with
    | none => .error (.mergedGroupMissing old)
    | some group =>
      -- the declaration moves first, then its own members are renamed with all others
      let moved := (request.merged.erase old).insert new group
      .ok { request with
        merged := moved.mapValues fun group =>
          { group with members := group.members.map (renamed old new) } }

/-- **Laying a request over another one.** Groups and criteria are appended, merged groups of the
second request replace those of the same id, and the owner flag stays. -/
def append (request other : Request) : Request :=
  { request with
    groups := request.groups ++ other.groups
    criteria := request.criteria ++ other.criteria
    merged := request.merged.insertAll other.merged.entries }

end Request

end EntitySearch
