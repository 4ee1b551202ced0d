import EntitySearch.Metadata.Registry
import EntitySearch.Request.Basic

/-!
# Scopes

A scope narrows a request: to the entities that the searching user owns, as far as the entity type
has owners, and to entities that are not marked as deleted, as far as it can be deleted. Both come
as standalone groups in front of the request, so the filter of a scoped request is a conjunction
with the filter of the request, provided that the request leaves the reserved ids alone.
-/

namespace EntitySearch

/-- **A scope**: the user who searches, if owners matter. -/
structure Scope where
  user : Option Uuid := none
  deriving DecidableEq

/-- **The ids for the criteria that a scope adds.** They have to be new to the request. -/
structure Scope.Ids where
  owner : String
  isFalse : String
  isNull : String
  deriving DecidableEq, Repr

namespace Scope

/-- The relation that leads to the owners of an entity. -/
def ownersRelation : String := "owners"

/-- Whether entities of a type have owners. -/
def hasOwners (registry : Registry) (entity : String) : Bool :=
  match registry.findField? entity ownersRelation with
  | some field => field.type.isRelation
  | none => false

/-- Whether entities of a type can be marked as deleted. -/
def isDeletable (registry : Registry) (entity : String) : Bool :=
  match registry.findField? entity Request.deletedField with
  | some field => field.type = .boolean
  | none => false

/-- The owner group of a scope, in a request that has nothing else. It is left out when the request
brings one of its own. -/
def ownerRequest (scope : Scope) (registry : Registry) (ids : Ids) (entity : String)
    (request : Request) : Request :=
  let start := Request.empty.setOwnerScoped request.ownerScoped
  match scope.user with
  | some user =>
    if hasOwners registry entity && !request.hasGroup Request.ownerGroup then
      start.addOwnerAccess ids.owner entity user
    else start
  | none => start

/-- **The layer of a scope**: a request with the groups that the scope adds to another one, and
nothing else. -/
def layer (scope : Scope) (registry : Registry) (ids : Ids) (entity : String) (request : Request) :
    Request :=
  let base := scope.ownerRequest registry ids entity request
  -- unlike the owner group, this one is added whether or not the request has its own
  if isDeletable registry entity then base.addNotDeleted ids.isFalse ids.isNull entity else base

/-- **Applying a scope** to a request over an entity type. -/
def apply (scope : Scope) (registry : Registry) (ids : Ids) (entity : String) (request : Request) :
    Request :=
  (scope.layer registry ids entity request).append request

end Scope

end EntitySearch
