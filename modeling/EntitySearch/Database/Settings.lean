import EntitySearch.Json.Shape

/-!
# Database settings

How connections to a database are pooled and opened.
-/

namespace EntitySearch.Database

/-- **The settings of a database.** Times are in milliseconds. -/
structure Settings where
  maxConnections : Nat := 10
  minConnections : Nat := 1
  connectionTimeout : Nat := 30000
  busyTimeout : Nat := 5000
  writeAheadLog : Bool := true
  deriving DecidableEq, Repr

namespace Settings

/-- The names of the members of a settings document, in their order. -/
def memberNames : List String :=
  ["max_connections", "min_connections", "connection_timeout_ms", "busy_timeout_ms", "enable_wal"]

/-- **Reading settings.** Any member may be missing. -/
def ofJson? (document : Json) : Option Settings := do
  let members ← document.members? memberNames
  let maxConnections ← members.defaulted? "max_connections" 10 (Json.natUpTo? Number.maxNat32)
  let minConnections ← members.defaulted? "min_connections" 1 (Json.natUpTo? Number.maxNat32)
  let connectionTimeout ←
    members.defaulted? "connection_timeout_ms" 30000 (Json.natUpTo? Number.maxNat64)
  let busyTimeout ← members.defaulted? "busy_timeout_ms" 5000 (Json.natUpTo? Number.maxNat32)
  let writeAheadLog ← members.defaulted? "enable_wal" true Json.bool?
  some ⟨maxConnections, minConnections, connectionTimeout, busyTimeout, writeAheadLog⟩

/-- Settings as they are written. -/
def toJson (settings : Settings) : Json :=
  .object
    [("max_connections", .int settings.maxConnections),
     ("min_connections", .int settings.minConnections),
     ("connection_timeout_ms", .int settings.connectionTimeout),
     ("busy_timeout_ms", .int settings.busyTimeout), ("enable_wal", .bool settings.writeAheadLog)]

end Settings

end EntitySearch.Database
