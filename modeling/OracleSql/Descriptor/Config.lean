import OracleSql.Config
import OracleSql.Json.Fields

/-!
# Configurations in JSON

Every field of a configuration may be missing; session options are the members of an object.
-/

namespace OracleSql

open Json

namespace IdentifierCase

def words : List (String × IdentifierCase) := [("preserve", preserve), ("upper", upper)]

def word : IdentifierCase → String
  | preserve => "preserve"
  | upper => "upper"

def ofJson? : Json → Option IdentifierCase := wordOf? .strict words

end IdentifierCase

namespace Config

def fields : List String := [
  "schema_prefix", "table_prefix", "max_identifier_length", "identifier_case", "date_format",
  "timestamp_format", "timestamp_tz_format", "session_vars"]

/-- Read options, which are members with text. -/
def optionsOfJson? (j : Json) : Option Options := do
  let members ← j.object?
  let options ← members.mapM fun (name, v) => return (name, ← v.text?)
  return Options.ofList options

def ofJson? (j : Json) : Option Config := do
  let r ← j.record? fields
  return {
    schemaPrefix := ← r.nullable "schema_prefix" (leaf text?)
    tablePrefix := ← r.optional "table_prefix" standard.tablePrefix (leaf text?)
    maxIdentifierLength :=
      ← r.optional "max_identifier_length" standard.maxIdentifierLength (leaf uint64?)
    identifierCase :=
      ← r.optional "identifier_case" standard.identifierCase (leaf IdentifierCase.ofJson?)
    dateFormat := ← r.optional "date_format" standard.dateFormat (leaf text?)
    timestampFormat := ← r.optional "timestamp_format" standard.timestampFormat (leaf text?)
    timestampTzFormat :=
      ← r.optional "timestamp_tz_format" standard.timestampTzFormat (leaf text?)
    sessionVars := ← r.optional "session_vars" .empty (leaf optionsOfJson?) }

def toJson (c : Config) : Json :=
  .object [("schema_prefix", ofOption .text c.schemaPrefix), ("table_prefix", .text c.tablePrefix),
    ("max_identifier_length", ofUInt64 c.maxIdentifierLength),
    ("identifier_case", .text c.identifierCase.word), ("date_format", .text c.dateFormat),
    ("timestamp_format", .text c.timestampFormat),
    ("timestamp_tz_format", .text c.timestampTzFormat),
    ("session_vars", .object (c.sessionVars.entries.map fun p => (p.1, .text p.2)))]

end Config

end OracleSql
