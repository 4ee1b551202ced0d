import EntitySearch.Comparison
import EntitySearch.Filter.Compile

/-!
# Filters over comparisons

The filter of a request over an entity type: the graph of its groups is compiled, the criteria of
all groups are resolved in order, and their predicates take the places of their ids. Every declared
group is resolved, also one that the filter does not reach. A predicate is what a store makes of a
comparison. In a plan the comparisons stand for themselves, and every store reads them in its own
way.
-/

namespace EntitySearch

/-- **The predicate of a criterion**: what is made of its comparison. -/
def Criterion.predicate {α : Type} (registry : Registry) (config : Config) (entity : String)
    (make : Comparison → Except SearchError α) (criterion : Criterion) : Except SearchError α := do
  let comparison ← criterion.comparison registry config entity
  make comparison

namespace Request

variable {α : Type}

/-- The ids of criteria in the order of the groups, each with the group that lists it. -/
def listed (request : Request) : List (String × String) :=
  request.groups.flatMap fun group => group.criteria.map fun id => (group.id, id)

/-- Resolves the criteria of a list of ids, each once. `known` holds the predicates made so far. -/
def resolveListed (request : Request) (resolve : Criterion → Except SearchError α) :
    List (String × α) → List (String × String) → Except SearchError (List (String × α))
  | known, [] => .ok known
  | known, (group, id) :: rest =>
    match Named.get? id known with
    | some _ => resolveListed request resolve known rest
    | none =>
      match request.criterion? id with
      | none => .error (.graph (.unknownCriterion group id))
      | some criterion =>
        match resolve criterion with
        | .error error => .error error
        | .ok predicate => resolveListed request resolve ((id, predicate) :: known) rest

/-- **The predicates of a request**, by the ids of their criteria. -/
def predicates (request : Request) (resolve : Criterion → Except SearchError α) :
    Except SearchError (List (String × α)) :=
  request.resolveListed resolve [] request.listed

end Request

/-- The filter that a predicate stands for; an id without a predicate matches nothing. -/
def Filter.ofId {α : Type} (known : List (String × α)) (id : String) : Filter α :=
  match Named.get? id known with
  | some predicate => .leaf predicate
  | none => .or []

/-- **The filter of a request** over the predicates of its criteria. -/
def Request.filterOf {α : Type} (request : Request) (resolve : Criterion → Except SearchError α) :
    Except SearchError (Filter α) :=
  match request.compile with
  | .error fault => .error (.graph fault)
  | .ok tree =>
    match request.predicates resolve with
    | .error error => .error error
    | .ok known => .ok (tree.substitute (Filter.ofId known))

/-- **The filter of a request** over an entity type, with comparisons as predicates. -/
def Request.filter (request : Request) (registry : Registry) (config : Config) (entity : String) :
    Except SearchError (Filter Comparison) :=
  request.filterOf (Criterion.predicate registry config entity .ok)

end EntitySearch
