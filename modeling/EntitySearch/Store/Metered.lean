import EntitySearch.Service

/-!
# Metered stores

A store that counts how often it is asked: a search asks it to fetch once and then to count once,
and a search for the number of matches only asks it to count.
-/

namespace EntitySearch

/-- **A metered store.** -/
structure Metered (σ : Type) where
  store : σ
  fetches : Nat := 0
  counts : Nat := 0

namespace Metered

variable {σ : Type} [Store σ]

/-- Asks the store to fetch what a plan wants, if it wants something. -/
def fetch (metered : Metered σ) (plan : Plan) : Except SearchError (List Record) × Metered σ :=
  match plan.fetch with
  | some fetch =>
    (Store.fetch metered.store fetch plan.filter, { metered with fetches := metered.fetches + 1 })
  | none => (.ok [], metered)

/-- Asks the store to count the matches of a plan. -/
def count (metered : Metered σ) (plan : Plan) : Except SearchError Nat × Metered σ :=
  (Store.count metered.store plan.options.entity plan.filter,
    { metered with counts := metered.counts + 1 })

/-- **Running a plan** on a metered store. A failed fetch is followed by no count. -/
def run (metered : Metered σ) (plan : Plan) : Except SearchError Page × Metered σ :=
  match metered.fetch plan with
  | (.error error, metered) => (.error error, metered)
  | (.ok rows, metered) =>
    match metered.count plan with
    | (.error error, metered) => (.error error, metered)
    | (.ok total, metered) =>
      (.ok ⟨rows, total, plan.options.page, plan.options.pageSize⟩, metered)

end Metered

end EntitySearch
