import EntitySearch.Config
import EntitySearch.Text.Blank

/-!
# Options of a search

Which entity type is searched, which page is wanted, how rows are sorted and what is shown of them.
Options may be incomplete; a search checks them first.
-/

namespace EntitySearch

/-- **Options of a search**, as given. -/
structure Options where
  entity : Option String := none
  page : Option Nat := none
  pageSize : Option Nat := none
  sortField : Option String := none
  direction : Option Direction := none
  projection : Option (List String) := none
  countOnly : Bool := false
  deriving DecidableEq, Repr

/-- **Complete options.** A page holds at least one row. -/
structure Options.Complete where
  entity : String
  page : Nat
  pageSize : Nat
  sortField : String
  direction : Direction
  projection : Option (List String)
  countOnly : Bool
  positive : 0 < pageSize

namespace Options

/-- The options for an entity type with the defaults of a configuration. -/
def ofConfig (entity : String) (config : Config) : Options where
  entity := entity
  page := some 0
  pageSize := config.pageSize
  sortField := config.sortField
  direction := config.direction

/-- A text that has to be there and not to be blank, without white space around it. -/
def requiredText (option : String) : Option String → Except SearchError String
  | some text =>
    let trimmed := Text.trimmed text
    if trimmed.isEmpty then .error (.configuration (.required option)) else .ok trimmed
  | none => .error (.configuration (.required option))

/-- A value that has to be there. -/
def requiredValue {α : Type} (option : String) : Option α → Except SearchError α
  | some value => .ok value
  | none => .error (.configuration (.required option))

/-- **Checking options.** The first of them that is missing or unusable is reported. -/
def complete (options : Options) : Except SearchError Complete := do
  let entity ← requiredText "entity type" options.entity
  let page ← requiredValue "page" options.page
  let pageSize ← requiredValue "page size" options.pageSize
  -- the size of a page is checked in front of what the rows are sorted by
  if positive : 0 < pageSize then
    let sortField ← requiredText "sort field" options.sortField
    let direction ← requiredValue "sort direction" options.direction
    .ok ⟨entity, page, pageSize, sortField, direction, options.projection, options.countOnly,
      positive⟩
  else .error (.configuration .emptyPage)

/-- The number of rows in front of the page. -/
def Complete.offset (options : Complete) : Nat := options.page * options.pageSize

/-- Reads options. Every option but the last may be null or missing; when the options are written as
an array, only the last two may be missing. -/
def ofJson? (value : Json) : Option Options := do
  let members ← value.members?
    ["entity_type", "page", "page_size", "sort_field", "sort_direction", "projection", "count_only"]
  let entity ← members.nullable? "entity_type" Json.text?
  let page ← members.nullable? "page" (Json.natUpTo? Number.maxNat32)
  let pageSize ← members.nullable? "page_size" (Json.natUpTo? Number.maxNat32)
  let sortField ← members.nullable? "sort_field" Json.text?
  let direction ← members.nullable? "sort_direction" (Json.named? Direction.ofName?)
  let projection ←
    members.defaulted? "projection" none (Json.Members.orNull? (Json.list? Json.text?))
  let countOnly ← members.defaulted? "count_only" false Json.bool?
  some ⟨entity, page, pageSize, sortField, direction, projection, countOnly⟩

end Options

end EntitySearch
