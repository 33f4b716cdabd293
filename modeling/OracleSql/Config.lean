import OracleSql.Options
import OracleSql.Text.Blank

/-!
# Settings of a connection

A `Config` is fixed for a connection: the schema and the prefix put before table names, the
longest identifier the database takes, how identifiers are written, and the formats a session
starts with.  `validate` refuses the settings the database cannot honour.
-/

namespace OracleSql

/-- How identifiers without quotes are written. -/
inductive IdentifierCase where
  /-- As they are; the database folds them to upper case. -/
  | preserve
  | upper
deriving DecidableEq, Inhabited

inductive ConfigError where
  /-- Identifiers are 30 bytes long before release 12.2 and 128 after. -/
  | unsupportedLength (length : UInt64)
  | blankSchema
  /-- The configuration text cannot be read. -/
  | malformed
deriving DecidableEq

structure Config where
  schemaPrefix : Option String
  tablePrefix : String
  maxIdentifierLength : UInt64
  identifierCase : IdentifierCase
  dateFormat : String
  timestampFormat : String
  timestampTzFormat : String
  /-- Further session options. -/
  sessionVars : Options
deriving DecidableEq

namespace Config

/-- The settings that hold where nothing is said. -/
def standard : Config where
  schemaPrefix := none
  tablePrefix := ""
  maxIdentifierLength := 30
  identifierCase := .preserve
  dateFormat := "YYYY-MM-DD HH24:MI:SS"
  timestampFormat := "YYYY-MM-DD HH24:MI:SS"
  timestampTzFormat := "YYYY-MM-DD HH24:MI:SS TZH:TZM"
  sessionVars := .empty

/-- The longest identifier in bytes. -/
def maxLength (c : Config) : Nat :=
  c.maxIdentifierLength.toNat

def sessionVar (c : Config) (option value : String) : Config :=
  { c with sessionVars := c.sessionVars.set option value }

/-- **Refuse what the database cannot honour**: another length than 30 or 128, then a schema of
white space. -/
def validate (c : Config) : Except ConfigError Unit :=
  if c.maxIdentifierLength ≠ 30 ∧ c.maxIdentifierLength ≠ 128 then
    .error (.unsupportedLength c.maxIdentifierLength)
  else if c.schemaPrefix.any Text.isAllBlank then .error .blankSchema
  else .ok ()

end Config

end OracleSql
