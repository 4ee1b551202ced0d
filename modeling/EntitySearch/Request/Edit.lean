import EntitySearch.Request.Basic

/-!
# Building requests

A request is built from the empty one by edits. Criteria come with their ids, which are new ones or
given by the caller. An edit changes the request in place. Only a renaming can fail, and since it
takes the old declaration out before it puts the new one in, what it leaves behind when it fails is
part of what it does.

A history of edits may lay a request over the one in the making that has a history of its own.
-/

namespace EntitySearch

/-- Adds criteria to a group, from the first to the last. -/
def Request.addAll (request : Request) (group : String) (connective : Option Connective)
    (criteria : List Criterion) : Request :=
  criteria.foldl (fun request criterion => request.add group connective criterion) request

theorem Request.addAll_cons (request : Request) (group : String) (connective : Option Connective)
    (criterion : Criterion) (criteria : List Criterion) :
    request.addAll group connective (criterion :: criteria) =
      (request.add group connective criterion).addAll group connective criteria := rfl

/-- **Renaming a merged group in place**: whether it succeeds, and the request that is there
afterwards. -/
def Request.renameInPlace (request : Request) (old new : String) :
    Except GraphFault Unit × Request :=
  if old = new then (.ok (), request)
  else if request.merged.contains new then (.error (.mergedGroupExists new), request)
  else
    -- the declaration has been taken out when it turns out that there was none
    let without := request.merged.erase old
    match request.merged.get? old with
    | none => (.error (.mergedGroupMissing old), { request with merged := without })
    | some group =>
      let moved := (without.insert new group).mapValues fun group =>
        { group with members := group.members.map (renamed old new) }
      (.ok (), { request with merged := moved })

/-- **An edit of a request.** -/
inductive Edit where
  | add (group : String) (connective : Option Connective) (criterion : Criterion)
  | addIdEquals (criterion group entity : String) (value : Literal)
  | addNotDeleted (forFalse forNull entity : String)
  | addOwnerAccess (criterion entity : String) (owner : Uuid)
  | setOwnerScoped (allowed : Bool)
  | merge (id : String) (connective : Connective) (members : List String)
  | rename (old new : String)
  | append (history : List Edit)

namespace Edit

mutual

/-- **Applying an edit**: whether it succeeds, and the request that is there afterwards. -/
def apply : Edit → Request → Except GraphFault Unit × Request
  | add group connective criterion, request => (.ok (), request.add group connective criterion)
  | addIdEquals criterion group entity value, request =>
    (.ok (), request.addIdEquals criterion group entity value)
  | addNotDeleted forFalse forNull entity, request =>
    (.ok (), request.addNotDeleted forFalse forNull entity)
  | addOwnerAccess criterion entity owner, request =>
    (.ok (), request.addOwnerAccess criterion entity owner)
  | setOwnerScoped allowed, request => (.ok (), request.setOwnerScoped allowed)
  | merge id connective members, request => (.ok (), request.merge id connective members)
  | rename old new, request => request.renameInPlace old new
  | append history, request => (.ok (), request.append (applyAll history .empty))

/-- **Applying a history of edits**, whether they succeed or not. -/
def applyAll : List Edit → Request → Request
  | [], request => request
  | edit :: rest, request => applyAll rest (apply edit request).2

end

end Edit

/-- **The request that a history builds.** -/
def Request.built (history : List Edit) : Request := Edit.applyAll history .empty

end EntitySearch
