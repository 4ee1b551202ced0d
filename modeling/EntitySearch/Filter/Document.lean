import EntitySearch.Filter.Basic
import EntitySearch.Json.Basic

/-!
# Filters as documents

A filter is written as a tree with the documents of its leaves.
-/

namespace EntitySearch.Filter

variable {α : Type}

mutual

/-- **A filter as a document**, with a writer for its leaves. -/
def toJson (write : α → Json) : Filter α → Json
  | all => .text "ALL"
  | leaf value => write value
  | and children => .object [("and", .array (toJsonAll write children))]
  | or children => .object [("or", .array (toJsonAll write children))]

/-- A list of filters as documents. -/
def toJsonAll (write : α → Json) : List (Filter α) → List Json
  | [] => []
  | child :: rest => toJson write child :: toJsonAll write rest

end

end EntitySearch.Filter
