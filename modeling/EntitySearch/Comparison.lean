import EntitySearch.Attribute.Coerce
import EntitySearch.Attribute.Resolve
import EntitySearch.Config
import EntitySearch.Request.Basic

/-!
# Comparisons

A comparison is a criterion whose path has been resolved and whose literal has been converted. It no
longer depends on metadata, and every store reads it in its own way.
-/

namespace EntitySearch

/-- **A comparison** of an attribute with a typed value. -/
structure Comparison where
  target : Attribute
  operation : Operation
  value : TypedValue
  deriving BEq

namespace Comparison

/-- A text pattern without `%` finds its text anywhere, if patterns are wrapped. -/
def wrapped (config : Config) (operation : Operation) : TypedValue → TypedValue
  | .text pattern =>
    if operation.isPattern && config.wrapPatterns && !pattern.toList.contains '%' then
      .text ("%" ++ pattern ++ "%")
    else .text pattern
  | value => value

end Comparison

namespace Criterion

/-- Whether a criterion is about an entity type; a criterion without one is about any. -/
def isAbout (criterion : Criterion) (entity : String) : Bool :=
  criterion.entity.isEmpty || Text.sameIgnoringCase criterion.entity entity

/-- **The comparison of a criterion** in a search over an entity type. -/
def comparison (criterion : Criterion) (registry : Registry) (config : Config) (entity : String) :
    Except SearchError Comparison :=
  if criterion.isAbout entity then do
    let target ← registry.resolve entity criterion.path
    let value ← target.field.coerceFor criterion.operation criterion.value
    .ok ⟨target, criterion.operation, Comparison.wrapped config criterion.operation value⟩
  else
    .error (.unresolved criterion.entity criterion.path (.otherTarget criterion.entity entity))

end Criterion

end EntitySearch
