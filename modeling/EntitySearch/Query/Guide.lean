/-!
# Guide to the query language

The operators of queries, each with a description and a query that uses it, for those who write
queries.
-/

namespace EntitySearch.Query

/-- **An entry of the guide.** -/
structure GuideEntry where
  symbol : String
  description : String
  sample : String
  deriving DecidableEq, Repr

/-- The operators of conditions. -/
def comparisonGuide : List GuideEntry :=
  [⟨"=", "Equals", "status = 'OPEN'"⟩,
   ⟨"!=", "Not equals", "status != 'CLOSED'"⟩,
   ⟨"~", "Contains (LIKE)", "title ~ 'report'"⟩,
   ⟨"!~", "Does not contain (NOT LIKE)", "title !~ 'draft'"⟩,
   ⟨">", "Greater than", "priority > 2"⟩,
   ⟨">=", "Greater than or equal", "priority >= 2"⟩,
   ⟨"<", "Less than", "priority < 5"⟩,
   ⟨"<=", "Less than or equal", "priority <= 5"⟩,
   ⟨"IS NULL", "Has no value", "closedAt IS NULL"⟩,
   ⟨"IS NOT NULL", "Has a value", "closedAt IS NOT NULL"⟩,
   ⟨"IN", "Matches one of the listed values", "status IN ('OPEN', 'BLOCKED')"⟩,
   ⟨"NOT IN", "Matches none of the listed values", "status NOT IN ('CLOSED')"⟩]

/-- The operators that join conditions. -/
def connectiveGuide : List GuideEntry :=
  [⟨"&", "Both conditions must hold", "status = 'OPEN' & priority > 2"⟩,
   ⟨"|", "Either condition may hold", "status = 'OPEN' | status = 'BLOCKED'"⟩,
   ⟨"()", "Groups conditions", "(status = 'OPEN' | status = 'BLOCKED') & priority > 2"⟩]

end EntitySearch.Query
