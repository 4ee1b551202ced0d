import EntitySearch.Filter.Resolve
import EntitySearch.Options
import EntitySearch.Request.Numbered
import EntitySearch.Scope
import EntitySearch.Store.Basic
import EntitySearch.Store.Page

/-!
# The search service

A search is planned before a store is asked: options are completed, the request becomes a filter,
and the attributes for sorting and projection are resolved. A plan is then run on any store. Each
failure ends the search; there is no partial answer.
-/

namespace EntitySearch

/-- **A service**: metadata and a configuration. -/
structure Service where
  registry : Registry
  config : Config := {}

/-- **A planned search.** Without something to fetch, only the matches are counted. -/
structure Plan where
  options : Options.Complete
  filter : Filter Comparison
  fetch : Option Fetch

/-- **Running a plan** on a store. The rows are fetched before the matches are counted. -/
def Plan.run {σ : Type} [Store σ] (plan : Plan) (store : σ) : Except SearchError Page := do
  let rows ←
    match plan.fetch with
    | some fetch => Store.fetch store fetch plan.filter
    | none => .ok []
  let total ← Store.count store plan.options.entity plan.filter
  .ok ⟨rows, total, plan.options.page, plan.options.pageSize⟩

namespace Service

/-! ### Planning -/

/-- The options for an entity type with the defaults of the service. -/
def options (service : Service) (entity : String) : Options :=
  Options.ofConfig entity service.config

/-- The request of a query, read as the configuration wants it. -/
def request (service : Service) (query entity : String) : Except SearchError Request :=
  Request.ofQuery service.config.rejectMixed query entity

/-- The filter of a request over an entity type. -/
def filter (service : Service) (request : Request) (entity : String) :
    Except SearchError (Filter Comparison) :=
  request.filter service.registry service.config entity

/-- Resolves the attribute to sort by: a scalar that needs no join. -/
def sortAttribute (service : Service) (entity path : String) : Except SearchError Attribute := do
  let found ← service.registry.resolve entity path
  if found.join.isSome then .error (.configuration (.sortJoin path))
  else if !found.field.type.isScalar then
    .error (.configuration (.sortKind path found.field.type.kind))
  else .ok found

/-- Resolves an attribute to show: one that needs no join. -/
def projectedAttribute (service : Service) (entity path : String) :
    Except SearchError Attribute := do
  let found ← service.registry.resolve entity path
  if found.join.isSome then .error (.configuration (.projectionJoin path)) else .ok found

/-- Resolves the attributes of a projection, if there is one. -/
def projection (service : Service) (entity : String) :
    Option (List String) → Except SearchError (Option (List Attribute))
  | none => .ok none
  | some paths => (paths.mapM (service.projectedAttribute entity)).map some

/-- What to fetch for complete options. -/
def fetch (service : Service) (options : Options.Complete) : Except SearchError Fetch := do
  let sort ← service.sortAttribute options.entity options.sortField
  let projection ← service.projection options.entity options.projection
  .ok ⟨options.entity, sort, options.direction, options.offset, options.pageSize, projection⟩

/-- **Planning a search.** -/
def plan (service : Service) (request : Request) (options : Options) : Except SearchError Plan := do
  let options ← options.complete
  let filter ← service.filter request options.entity
  -- a search that only counts needs no attributes for sorting and projection
  if options.countOnly then .ok ⟨options, filter, none⟩
  else
    let fetch ← service.fetch options
    .ok ⟨options, filter, some fetch⟩

/-- The request in the scope of a search. The scope goes by the entity type as the options spell
it. -/
def narrowed (service : Service) (scope : Scope) (ids : Scope.Ids) (request : Request)
    (options : Options) : Except SearchError Request :=
  match options.entity with
  | some entity => .ok (scope.apply service.registry ids entity request)
  | none => .error (.configuration (.required "entity type"))

/-- Planning a search within a scope. -/
def planScoped (service : Service) (scope : Scope) (ids : Scope.Ids) (request : Request)
    (options : Options) : Except SearchError Plan := do
  let request ← service.narrowed scope ids request options
  service.plan request options

/-- Planning to count the matches of a request. -/
def planCount (service : Service) (request : Request) (entity : String) : Except SearchError Plan :=
  service.plan request { service.options entity with countOnly := true }

/-- The request for the entity of an id. -/
def idRequest (entity id : String) : Request :=
  Request.empty.addIdEquals "ID_EQUALS" "ID_EQUALS_GROUP" entity (.text id)

/-- Planning to look for the entity of an id. A second row shows that it is not alone. -/
def planFind (service : Service) (entity id : String) : Except SearchError Plan :=
  service.plan (idRequest entity id) { service.options entity with pageSize := some 2 }

/-! ### Searching -/

variable {σ : Type} [Store σ]

/-- **Searching** for the matches of a request. -/
def search (service : Service) (store : σ) (request : Request) (options : Options) :
    Except SearchError Page := do
  let plan ← service.plan request options
  plan.run store

/-- **Searching within a scope.** -/
def searchScoped (service : Service) (store : σ) (scope : Scope) (ids : Scope.Ids)
    (request : Request) (options : Options) : Except SearchError Page := do
  let plan ← service.planScoped scope ids request options
  plan.run store

/-- **Counting** the matches of a request. -/
def count (service : Service) (store : σ) (request : Request) (entity : String) :
    Except SearchError Nat := do
  let plan ← service.planCount request entity
  let page ← plan.run store
  .ok page.total

/-- **Finding the entity of an id**, if exactly one has it. -/
def find? (service : Service) (store : σ) (entity id : String) :
    Except SearchError (Option Record) := do
  let plan ← service.planFind entity id
  let page ← plan.run store
  .ok page.only?

end Service

end EntitySearch
