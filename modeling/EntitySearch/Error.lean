import EntitySearch.Text.Ascii
import EntitySearch.Number.Digits

/-!
# Errors

The ways in which a search can fail, by cause: options and configuration, attribute paths,
conversion of literals, the graph of groups, query syntax, metadata, patterns and storage. A failed
search gives no rows. The wording of every error is in `SearchError.message` and the functions it
uses.
-/

namespace EntitySearch

/-! ### Causes -/

/-- Why a query is malformed. -/
inductive SyntaxFault where
  | emptyQuery
  | unbalancedParentheses
  | unclosedQuote
  | emptyCondition
  | missingOperand
  | mixedConnectives (level : String)
  | invalidCondition (condition : String)
  | missingValue
  | emptyMembership
  deriving DecidableEq, Repr

/-- Why an attribute path does not lead to a field. -/
inductive PathFault where
  | unknownEntity (entity : String)
  | emptyPath
  | emptySegment
  | unclosedRelation
  | fieldExpected (relation : String)
  | secondJoin
  | unknownRelation (relation : String)
  | notARelation (field kind : String)
  | unknownField (field entity : String)
  | notJoined (relation : String)
  | notTraversable (kind field : String)
  | otherTarget (target searched : String)
  deriving DecidableEq, Repr

/-- Why the groups of a request do not form a filter. -/
inductive GraphFault where
  | unknownCriterion (group criterion : String)
  | missingRoot
  | cycle (path : List String)
  | unknownGroup (id : String)
  | mergedGroupExists (id : String)
  | mergedGroupMissing (id : String)
  deriving DecidableEq, Repr

/-- Why options or a configuration are refused. -/
inductive OptionFault where
  | required (option : String)
  | emptyPage
  | sortJoin (path : String)
  | sortKind (path kind : String)
  | projectionJoin (path : String)
  | unreadable
  deriving DecidableEq, Repr

/-- Why a name is no identifier. -/
inductive NameFault where
  | empty
  | startsWithDigit
  | otherCharacter
  deriving DecidableEq, Repr

/-- Why metadata are refused. -/
inductive MetadataError where
  | duplicateEntity (entity : String)
  | duplicateField (entity field : String)
  | invalidIdentifier (name : String) (fault : NameFault)
  | unreadable
  deriving DecidableEq, Repr

/-- Why a database fails. -/
inductive DatabaseFault where
  | unreachable
  | malformedJson
  | patternTooLong
  | clauseTooDeep (limit : Nat)
  | tooManyColumns
  | tooManyParameters (statement : String) (offset : Nat)
  | newerSchema (version supported : Int)
  | notADatabase (attempt : String)
  deriving DecidableEq, Repr

/-- **Why a search fails.** -/
inductive SearchError where
  | configuration (fault : OptionFault)
  | unresolved (entity path : String) (fault : PathFault)
  | conversion (field kind value : String)
  | graph (fault : GraphFault)
  | malformed (fault : SyntaxFault)
  | metadata (error : MetadataError)
  | pattern (source : String)
  | database (fault : DatabaseFault)
  deriving DecidableEq, Repr

/-! ### Wording -/

/-- The comparison operators, as the message for a malformed condition lists them. -/
def listedOperators : String := "=, !=, ~, !~, >, <, >=, <=, IS NULL, IS NOT NULL, IN, NOT IN"

/-- What is wrong with a query. -/
def SyntaxFault.message : SyntaxFault → String
  | emptyQuery => "Query must not be empty"
  | unbalancedParentheses => "Unbalanced parentheses in query"
  | unclosedQuote => "Unclosed quote in query"
  | emptyCondition => "Empty condition"
  | missingOperand => "Empty condition found - check for missing operands around & or |"
  | mixedConnectives level =>
    "Mixed '&' and '|' at the same level in '" ++ level ++ "'; add parentheses"
  | invalidCondition condition =>
    "Invalid condition: '" ++ condition ++ "'. Expected format: field operator value. " ++
      "Supported operators: " ++ listedOperators
  | missingValue => "Missing value after operator"
  | emptyMembership => "IN clause requires at least one value"

/-- What is wrong with a path. -/
def PathFault.message : PathFault → String
  | unknownEntity entity => "unknown entity type '" ++ entity ++ "'"
  | emptyPath => "empty attribute path"
  | emptySegment => "empty path segment"
  | unclosedRelation => "missing ']' after relation name"
  | fieldExpected relation => "expected a field after '[" ++ relation ++ "]'"
  | secondJoin => "only one relation join is supported"
  | unknownRelation relation => "no relation '" ++ relation ++ "'"
  | notARelation field kind => "'" ++ field ++ "' is a " ++ kind ++ " field, not a relation"
  | unknownField field entity => "no field '" ++ field ++ "' on " ++ entity
  | notJoined relation => "relation '" ++ relation ++ "' must be joined as [" ++ relation ++ "]"
  | notTraversable kind field => "cannot traverse " ++ kind ++ " field '" ++ field ++ "'"
  | otherTarget target searched =>
    "criterion targets " ++ target ++ " but the search is over " ++ searched

/-- What is wrong with a graph of groups. -/
def GraphFault.message : GraphFault → String
  | unknownCriterion group criterion =>
    "group '" ++ group ++ "' references unknown criterion '" ++ criterion ++ "'"
  | missingRoot => "merged groups are declared but no FINAL_GROUP root is present"
  | cycle path => "merged groups form a cycle: " ++ Text.joined " -> " path
  | unknownGroup id => "unknown group '" ++ id ++ "'"
  | mergedGroupExists id => "merged group '" ++ id ++ "' already exists"
  | mergedGroupMissing id => "merged group '" ++ id ++ "' does not exist"

/-- What is wrong with options. -/
def OptionFault.message : OptionFault → String
  | required option => option ++ " is required"
  | emptyPage => "page size must be positive"
  | sortJoin path => "sort field '" ++ path ++ "' cannot traverse a relation"
  | sortKind path kind => "sort field '" ++ path ++ "' is a " ++ kind ++ " field"
  | projectionJoin path => "projection field '" ++ path ++ "' cannot traverse a relation"
  | unreadable => "invalid search config"

/-- What is wrong with a name. -/
def NameFault.message : NameFault → String
  | empty => "empty name"
  | startsWithDigit => "starts with a digit"
  | otherCharacter => "only ASCII letters, digits and '_' are allowed"

/-- What is wrong with metadata. -/
def MetadataError.message : MetadataError → String
  | duplicateEntity entity => "entity type already registered: " ++ entity
  | duplicateField entity field => "field '" ++ field ++ "' declared twice on " ++ entity
  | invalidIdentifier name fault => "invalid identifier '" ++ name ++ "': " ++ fault.message
  | unreadable => "failed to load metadata"

/-- What is wrong with a database. -/
def DatabaseFault.message : DatabaseFault → String
  | unreachable => "connection failed to sqlite"
  | malformedJson => "internal error in sqlite: malformed JSON"
  | patternTooLong => "internal error in sqlite: LIKE or GLOB pattern too complex"
  | clauseTooDeep limit =>
    "internal error in sqlite: Expression tree is too large (maximum depth " ++
      Number.natText limit ++ ")"
  | tooManyColumns => "internal error in sqlite: too many columns in result set"
  | tooManyParameters statement offset =>
    "internal error in sqlite: too many SQL variables in " ++ statement ++ " at offset " ++
      Number.natText offset
  | newerSchema version supported =>
    "internal error in sqlite: database schema version " ++ Number.intText version ++
      " is newer than supported version " ++ Number.intText supported
  | notADatabase attempt => "internal error in sqlite: " ++ attempt ++ ": file is not a database"

/-- **The message of an error.** -/
def SearchError.message : SearchError → String
  | configuration fault => "configuration error: " ++ fault.message
  | unresolved entity path fault =>
    "cannot resolve attribute '" ++ path ++ "' on " ++ entity ++ ": " ++ fault.message
  | conversion field kind value =>
    "cannot convert '" ++ value ++ "' to " ++ kind ++ " for field '" ++ field ++ "'"
  | graph fault => "group resolution failed: " ++ fault.message
  | malformed fault => "invalid query syntax: " ++ fault.message
  | metadata error => error.message
  | pattern source => "query execution failed: invalid LIKE pattern '" ++ source ++ "'"
  | database fault => fault.message

/-- The class of an error. -/
def SearchError.kind : SearchError → String
  | configuration _ => "Configuration"
  | unresolved .. => "AttributeResolution"
  | conversion .. => "TypeCoercion"
  | graph _ => "GroupResolution"
  | malformed _ => "Syntax"
  | metadata (.duplicateEntity _) => "DuplicateEntity"
  | metadata (.duplicateField ..) => "DuplicateField"
  | metadata (.invalidIdentifier ..) => "InvalidIdentifier"
  | metadata .unreadable => "Load"
  | pattern _ => "QueryError"
  | database .unreachable => "ConnectionFailed"
  | database _ => "Internal"

/-- Whether the message of an error says all there is to say. The causes of the others lie in a
document, an engine for expressions or a file system, and their messages name only the failure. -/
def SearchError.isExplained : SearchError → Bool
  | configuration .unreadable => false
  | metadata .unreadable => false
  | pattern _ => false
  | database .unreachable => false
  | _ => true

end EntitySearch
