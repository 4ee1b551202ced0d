import EntitySearch.Database.Settings
import EntitySearch.Database.Table

/-!
# Database files

A database holds the table of records and the version of its schema. Opening a file creates what is
missing, refuses a version that is newer than the supported one, and fails where the file holds
something else than a database.
-/

namespace EntitySearch.Database

/-- **What a database holds.** Version zero stands for a schema that has not been created. -/
structure Content where
  table : Table := {}
  version : Int := 0

/-- **What a file holds.** -/
inductive File where
  | database (content : Content)
  | somethingElse

/-- The schema version that is created and supported. -/
def supportedVersion : Int := 1

/-- Creates the schema if it is missing, and checks its version. -/
def Content.initialised (content : Content) : Except DatabaseFault Content :=
  if content.version = 0 then .ok { content with version := supportedVersion }
  else if supportedVersion < content.version then
    .error (.newerSchema content.version supportedVersion)
  else .ok content

/-- A new database. -/
def Content.new : Content := { version := supportedVersion }

/-- The first thing that is tried on a file. -/
def firstAttempt (settings : Settings) : String :=
  if settings.writeAheadLog then "Failed to enable WAL mode"
  else "Failed to create schema_version table"

/-- **Opening a file.** -/
def File.open (settings : Settings) : File → Except DatabaseFault Content
  | database content => content.initialised
  | somethingElse => .error (.notADatabase (firstAttempt settings))

/-- Opening a file in a directory that does not exist. -/
def openMissing : Except DatabaseFault Content := .error .unreachable

end EntitySearch.Database
