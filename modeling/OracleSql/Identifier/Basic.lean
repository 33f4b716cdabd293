import OracleSql.Config
import OracleSql.Text.Case

/-!
# Identifiers

An identifier stays without quotes unless it is a reserved word, which is written in upper case
and quoted.  `wrap` writes a column reference, `wrapTable` a table reference: both put the table
prefix before the table and split off an alias, and a table without a schema of its own gets the
configured one.
-/

namespace OracleSql.Identifier

/-- The words that cannot be identifiers without quotes. -/
def reservedWords : List String := [
  "ACCESS", "ADD", "ALL", "ALTER", "AND", "ANY", "AS", "ASC", "AUDIT", "BETWEEN", "BY", "CHAR",
  "CHECK", "CLUSTER", "COLUMN", "COMMENT", "COMPRESS", "CONNECT", "CREATE", "CURRENT", "DATE",
  "DECIMAL", "DEFAULT", "DELETE", "DESC", "DISTINCT", "DROP", "ELSE", "EXCLUSIVE", "EXISTS",
  "FILE", "FLOAT", "FOR", "FROM", "GRANT", "GROUP", "HAVING", "IDENTIFIED", "IMMEDIATE", "IN",
  "INCREMENT", "INDEX", "INITIAL", "INSERT", "INTEGER", "INTERSECT", "INTO", "IS", "LEVEL",
  "LIKE", "LOCK", "LONG", "MAXEXTENTS", "MINUS", "MLSLABEL", "MODE", "MODIFY", "NOAUDIT",
  "NOCOMPRESS", "NOT", "NOWAIT", "NULL", "NUMBER", "OF", "OFFLINE", "ON", "ONLINE", "OPTION",
  "OR", "ORDER", "PCTFREE", "PRIOR", "PRIVILEGES", "PUBLIC", "RAW", "RENAME", "RESOURCE",
  "REVOKE", "ROW", "ROWID", "ROWNUM", "ROWS", "SELECT", "SESSION", "SET", "SHARE", "SIZE",
  "SMALLINT", "START", "SUCCESSFUL", "SYNONYM", "SYSDATE", "TABLE", "THEN", "TO", "TRIGGER",
  "UID", "UNION", "UNIQUE", "UPDATE", "USER", "VALIDATE", "VALUES", "VARCHAR", "VARCHAR2",
  "VIEW", "WHENEVER", "WHERE", "WITH"]

/-- Whether a word is reserved, in any ASCII case. -/
def isReserved (word : String) : Bool :=
  reservedWords.any fun r => Text.sameIgnoringCase r word

/-- One segment of a reference: the star stays, a reserved word is quoted in upper case, and any
other segment is written as the configuration says. -/
def wrapValue (c : Config) (segment : String) : String :=
  if segment = "*" then segment
  else if isReserved segment then "\"" ++ Text.upper segment ++ "\""
  else
    match c.identifierCase with
    | .preserve => segment
    | .upper => Text.upper segment

/-- The two sides of `expression as alias`, split at the first ` as ` in any ASCII case. -/
def splitAlias? (s : String) : Option (String × String) :=
  (Text.breakOn " as ".toList (s.toList.map Char.toLower)).map fun (before, _) =>
    (String.ofList (Text.trimList Text.isBlank (s.toList.take before.length)),
      String.ofList (Text.trimList Text.isBlank (s.toList.drop (before.length + 4))))

/-- The parts of a text between dots. -/
def segments (s : String) : List String :=
  (s.toList.splitOn '.').map String.ofList

/-- The last segment of a reference: a table without its schema. -/
def bareTable (reference : String) : String :=
  (segments reference).getLast?.getD reference

/-- A table name as the data dictionary holds it: prefix and name, no schema. -/
def prefixedTable (c : Config) (reference : String) : String :=
  c.tablePrefix ++ bareTable reference

/-- Wrap the segments of a path; the last but one is a table and gets the prefix. -/
def wrapSegments (c : Config) : List String → List String
  | [] => []
  | [column] => [wrapValue c column]
  | [table, column] => [wrapValue c (c.tablePrefix ++ table), wrapValue c column]
  | schema :: rest => wrapValue c schema :: wrapSegments c rest

/-- A column reference without alias: `column`, `table.column`, `schema.table.column`. -/
def wrapPath (c : Config) (path : String) : String :=
  ".".intercalate (wrapSegments c (segments path))

/-- **A column reference**, with the alias after `as` when it has one. -/
def wrap (c : Config) (reference : String) : String :=
  match splitAlias? reference with
  | some (expression, shown) => wrapPath c expression ++ " as " ++ wrapValue c shown
  | none => wrapPath c reference

/-- A table reference without alias: `table` in the configured schema, or `schema.table`. -/
def wrapTablePath (c : Config) (path : String) : String :=
  match Text.breakOn ['.'] path.toList with
  | some (schema, name) =>
    wrapValue c (String.ofList schema) ++ "." ++ wrapValue c (c.tablePrefix ++ String.ofList name)
  | none =>
    let table := wrapValue c (c.tablePrefix ++ path)
    match c.schemaPrefix with
    | some schema => wrapValue c schema ++ "." ++ table
    | none => table

/-- **A table reference**, with the alias after a space when it has one. -/
def wrapTable (c : Config) (reference : String) : String :=
  match splitAlias? reference with
  | some (path, shown) => wrapTablePath c path ++ " " ++ wrapValue c shown
  | none => wrapTablePath c reference

def columnList (c : Config) (columns : List String) : String :=
  ", ".intercalate (columns.map (wrap c))

/-- The name of a sequence or trigger, in the configured schema. -/
def qualify (c : Config) (object : String) : String :=
  match c.schemaPrefix with
  | some schema => wrapValue c schema ++ "." ++ object
  | none => object

end OracleSql.Identifier
