import OracleSql.Identifier.Generated
import OracleSql.Statement

/-!
# Full-text indexes

A full-text command makes one index for each of its columns, all in one block.  When it has
several columns each index reads all of them through a preference, which has to exist before.
The names belong together: an index is called `<base>_<n>` and the preference
`<base>_preference`, so a base is short enough for the longer of the two.
-/

namespace OracleSql

open Identifier

/-- The end of the name of a preference. -/
def preferenceSuffix : String := "_preference"

def preferenceName (base : String) : String :=
  base ++ preferenceSuffix

namespace IndexSpec

/-- Whether the full-text indexes read several columns. -/
def isMultiColumn (spec : IndexSpec) : Bool :=
  decide (1 < spec.columns.length)

def fulltextBase (c : Config) (table : String) (spec : IndexSpec) : Compile String := do
  let name ← specName c table .fulltext spec
  if spec.isMultiColumn then shortened (c.maxLength - preferenceSuffix.utf8ByteSize) name
  else return name

def fulltextStatement (c : Config) (table base : String) (multi : Bool) (n : Nat)
    (column : String) : String :=
  "create index " ++ (if multi then base ++ "_" ++ toString n else base) ++ " on "
    ++ wrapTable c table ++ " (" ++ wrap c column
    ++ ") indextype is ctxsys.context parameters (''"
    ++ (if multi then "datastore " ++ preferenceName base ++ " " else "")
    ++ "sync(on commit)'')"

def createFulltext (c : Config) (table : String) (spec : IndexSpec) : Compile String := do
  let base ← spec.fulltextBase c table
  let statements := spec.columns.zipIdx.map fun (column, n) =>
    "execute immediate '" ++ fulltextStatement c table base spec.isMultiColumn n column ++ "';"
  return "begin " ++ " ".intercalate statements ++ " end;"

def upperLiteral (s : String) : String :=
  "'" ++ Text.double '\'' (Text.upper s) ++ "'"

/-- The block that drops the full-text indexes on columns of a table; where no columns are given,
the statement that drops the index of the name. -/
def dropFulltext (c : Config) (table : String) (spec : IndexSpec) : Compile String := do
  if spec.columns.isEmpty then return "drop index " ++ (← specName c table .fulltext spec)
  return "begin for idx_rec in (select idx_name from ctx_user_indexes where idx_table = "
    ++ upperLiteral (prefixedTable c table) ++ " and idx_text_name in ("
    ++ ", ".intercalate (spec.columns.map upperLiteral)
    ++ ")) loop execute immediate 'drop index ' || idx_rec.idx_name; end loop; end;"

end IndexSpec

namespace Preference

/-- The preferences that the full-text commands of a blueprint need. -/
def ofCommands (c : Config) (table : String) : List SchemaCommand → Compile (List Preference)
  | [] => return []
  | .fulltext spec :: rest => do
    if spec.isMultiColumn then
      let base ← spec.fulltextBase c table
      return ⟨preferenceName base, spec.columns⟩ :: (← ofCommands c table rest)
    else ofCommands c table rest
  | _ :: rest => ofCommands c table rest

def ofBlueprint (c : Config) (b : Blueprint) : Compile (List Preference) :=
  ofCommands c b.name b.commands

/-- The calls that create one preference. -/
def createCalls (c : Config) (p : Preference) : String :=
  "ctx_ddl.create_preference('" ++ p.name ++ "', 'MULTI_COLUMN_DATASTORE'); "
    ++ "ctx_ddl.set_attribute('" ++ p.name ++ "', 'COLUMNS', '" ++ columnList c p.columns ++ "');"

/-- One block that creates all preferences, if there are any. -/
def createSql? (c : Config) (preferences : List Preference) : Option String :=
  if preferences.isEmpty then none
  else some ("BEGIN " ++ " ".intercalate (preferences.map (createCalls c)) ++ " END;")

/-- The block that drops the preferences behind the full-text indexes of a table.  Their names
are those of the indexes, cut before the last underscore and ended by the suffix. -/
def dropOfTable (c : Config) (table : String) : Statement :=
  ⟨"BEGIN FOR c IN (select distinct (substr(cui.idx_name, 1, instr(cui.idx_name, '_', -1, 1) - 1) "
      ++ "|| '_preference') preference from ctx_user_indexes cui where cui.idx_table = upper(?)) "
      ++ "LOOP FOR p IN (select pre_name from ctx_user_preferences "
      ++ "where upper(pre_name) = upper(c.preference)) LOOP "
      ++ "EXECUTE IMMEDIATE 'CALL CTXSYS.CTX_DDL.DROP_PREFERENCE(:preference)' USING p.pre_name; "
      ++ "END LOOP; END LOOP; END;",
    [.text (prefixedTable c table)], []⟩

/-- The block that drops every preference of the user. -/
def dropAll : String :=
  "BEGIN FOR c IN (select pre_name from ctx_user_preferences) LOOP "
    ++ "EXECUTE IMMEDIATE 'CALL CTXSYS.CTX_DDL.DROP_PREFERENCE(:pre_name)' USING c.pre_name; "
    ++ "END LOOP; END;"

end Preference

end OracleSql
