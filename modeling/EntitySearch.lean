import EntitySearch.Attribute.Coerce
import EntitySearch.Attribute.Document
import EntitySearch.Attribute.Resolve
import EntitySearch.Database.File
import EntitySearch.Database.Statement
import EntitySearch.Document.Projection
import EntitySearch.Document.Record
import EntitySearch.Document.Test
import EntitySearch.Filter.Document
import EntitySearch.Json.Text
import EntitySearch.Metadata.Document
import EntitySearch.Options
import EntitySearch.Proofs.Groups.Append
import EntitySearch.Proofs.Groups.Compile
import EntitySearch.Proofs.Groups.Meaning
import EntitySearch.Proofs.Query.Filter
import EntitySearch.Proofs.Query.Numbering
import EntitySearch.Proofs.Search.Evaluation
import EntitySearch.Proofs.Search.Plan
import EntitySearch.Proofs.Search.Scope
import EntitySearch.Query.Guide
import EntitySearch.Query.Validation
import EntitySearch.Request.Document
import EntitySearch.Request.Numbered
import EntitySearch.Scope
import EntitySearch.Service
import EntitySearch.Store.Memory
import EntitySearch.Store.Metered
import EntitySearch.Text.CaseFold
import EntitySearch.TypedValue.Document
import EntitySearch.Proofs.Search.Query
import EntitySearch.Proofs.Documents.Order
import EntitySearch.Proofs.Search.Pages
import EntitySearch.Proofs.Database.Agreement
import EntitySearch.Proofs.Documents.Patterns
import EntitySearch.Proofs.Database.Patterns
import EntitySearch.Proofs.Database.Relations
import EntitySearch.Proofs.Database.Clauses.Reader
import EntitySearch.Proofs.Database.Clauses.Meaning
import EntitySearch.Proofs.Database.Clauses.Conditions
import EntitySearch.Proofs.Database.Clauses.Statements
import EntitySearch.Proofs.Stores.Fetching
import EntitySearch.Proofs.Documents.Numerals
import EntitySearch.Proofs.Documents.Reading
import EntitySearch.Proofs.Database.Filters
import EntitySearch.Proofs.Stores.Agreement
import EntitySearch.Proofs.Search.Layers
import EntitySearch.Request.Edit
import EntitySearch.Proofs.Groups.Building
import EntitySearch.Proofs.Documents.Nulls
import EntitySearch.Proofs.Query.Scanning
import EntitySearch.Proofs.Query.Spelling
import EntitySearch.Proofs.Query.Conditions
import EntitySearch.Proofs.Query.Reading
import EntitySearch.Proofs.Metadata.Names
import EntitySearch.Proofs.Metadata.Paths
import EntitySearch.Proofs.Database.Outlines
import EntitySearch.Proofs.Groups.Renaming
import EntitySearch.Proofs.Query.QuotedValues
import EntitySearch.Proofs.Query.Strictness
import EntitySearch.Proofs.Query.Balance
import EntitySearch.Proofs.Query.MarkedValues
import EntitySearch.Proofs.Numbers.Rounding
import EntitySearch.Proofs.Numbers.PlainText
import EntitySearch.Proofs.Numbers.Reading
import EntitySearch.Proofs.Query.BareWords
import EntitySearch.Proofs.Search.BareWords
import EntitySearch.Proofs.Query.Nesting
import EntitySearch.Proofs.Metadata.Resolving
import EntitySearch.Proofs.Metadata.Inheritance
import EntitySearch.Proofs.Query.Warnings
import EntitySearch.Proofs.Search.ById
import EntitySearch.Proofs.Search.Containing
import EntitySearch.Proofs.Database.Integers
import EntitySearch.Proofs.Documents.Sorting
import EntitySearch.Proofs.Calendar.Chronology
import EntitySearch.Proofs.Numbers.DecimalText
import EntitySearch.Proofs.Text.Uuids
import EntitySearch.Proofs.Calendar.Reading
import EntitySearch.Proofs.Attribute.Canonical
import EntitySearch.Proofs.Database.Membership
import EntitySearch.Proofs.Search.Membership
import EntitySearch.Proofs.Documents.Places
import EntitySearch.Proofs.Documents.Projecting
