import OracleSql.Dictionary.Row
import OracleSql.Json.Fields

/-!
# Reports on tables

What the rows of the data dictionary say about columns, indexes, foreign keys and tables.  Names
come out in lower case.  An index has one row for each of its columns; `indexReports` gathers
them by name, in the order in which the names first appear.
-/

namespace OracleSql

structure ColumnReport where
  name : String
  /-- The type without length or precision. -/
  typeName : String
  /-- The type as it would be declared. -/
  dataType : String
  nullable : Bool
  default : Option String
  comment : Option String
deriving DecidableEq

/-- An index with its columns in order. -/
structure IndexReport where
  name : String
  columns : List String
  indexType : String
  unique : Bool
  primary : Bool
deriving DecidableEq

structure ForeignKeyReport where
  name : String
  columns : List String
  foreignSchema : String
  foreignTable : String
  foreignColumns : List String
  onDelete : String
deriving DecidableEq

structure TableReport where
  name : String
  schema : String
  size : Option UInt64
  comment : Option String
  collation : Option String
deriving DecidableEq

namespace Row

/-- The column names of rows. -/
def columnListing (rows : List Row) : List String :=
  rows.map fun row => row.lowerText "column_name"

/-- The first value of a row that is an unsigned integer. -/
def firstCount? (row : Row) : Option UInt64 :=
  row.findSome? fun
    | (_, .int n) => uint64OfInt? n
    | _ => none

/-- The count that the first row reports. -/
def count (rows : List Row) : UInt64 :=
  match rows with
  | [] => 0
  | row :: _ => ((row.number? "count") <|> row.firstCount?).getD 0

/-- A type name with a number in parentheses, when there is one. -/
def sizedType (name : String) (size : Option UInt64) : String :=
  match size with
  | some n => name ++ "(" ++ toString n.toNat ++ ")"
  | none => name

/-- The length of a text column: in characters when that is given and not zero, else in bytes. -/
def textLength? (row : Row) : Option UInt64 :=
  match (row.number? "char_length").filter fun n => decide (0 < n) with
  | some n => some n
  | none => row.number? "data_length"

/-- The type of a column as it would be declared. -/
def declaredType (row : Row) (name : String) : String :=
  if name = "number" then
    match row.number? "precision", row.number? "places" with
    | some p, some s => "number(" ++ toString p.toNat ++ ", " ++ toString s.toNat ++ ")"
    | precision, _ => sizedType name precision
  else if name = "float" then sizedType name (row.number? "precision")
  else if ["varchar", "varchar2", "nvarchar2", "char", "nchar", "raw"].contains name then
    sizedType name row.textLength?
  else name

def columnReport (row : Row) : ColumnReport :=
  let typeName := row.lowerText "type_name"
  { name := row.lowerText "name"
    typeName := typeName
    dataType := row.declaredType typeName
    nullable := row.flag "nullable"
    default := (row.text? "default").map Text.trim
    comment := row.text? "comment" }

/-- The index that a row belongs to, with the one column of the row. -/
def indexReport (row : Row) : IndexReport where
  name := row.lowerText "name"
  columns := [row.lowerText "column_name"]
  indexType := row.lowerText "type"
  unique := row.flag "unique"
  primary := row.flag "primary"

def foreignKeyReport (row : Row) : ForeignKeyReport where
  name := row.lowerText "name"
  columns := row.names "columns"
  foreignSchema := row.lowerText "foreign_schema"
  foreignTable := row.lowerText "foreign_table"
  foreignColumns := row.names "foreign_columns"
  onDelete := row.lowerText "on_delete"

def tableReport (row : Row) : TableReport where
  name := row.lowerText "name"
  schema := row.lowerText "schema"
  size := row.number? "size"
  comment := row.text? "comment"
  collation := row.text? "collation"

end Row

/-- Put an index with one column to the indexes: behind the columns of the one of its name, or at
the end as a new one. -/
def IndexReport.gather (found : List IndexReport) (i : IndexReport) : List IndexReport :=
  match found with
  | [] => [i]
  | first :: rest =>
    if first.name = i.name then { first with columns := first.columns ++ i.columns } :: rest
    else first :: gather rest i

/-- **The indexes of rows**, one for each name. -/
def indexReports (rows : List Row) : List IndexReport :=
  (rows.map Row.indexReport).foldl IndexReport.gather []

/-! ### Reports in JSON -/

open Json

def ColumnReport.toJson (r : ColumnReport) : Json :=
  .object [("name", .text r.name), ("type_name", .text r.typeName),
    ("data_type", .text r.dataType), ("nullable", .bool r.nullable),
    ("default", ofOption .text r.default), ("comment", ofOption .text r.comment)]

def IndexReport.toJson (r : IndexReport) : Json :=
  .object [("name", .text r.name), ("columns", ofList .text r.columns),
    ("index_type", .text r.indexType), ("unique", .bool r.unique), ("primary", .bool r.primary)]

/-- A foreign key has no action on updates. -/
def ForeignKeyReport.toJson (r : ForeignKeyReport) : Json :=
  .object [("name", .text r.name), ("columns", ofList .text r.columns),
    ("foreign_schema", .text r.foreignSchema), ("foreign_table", .text r.foreignTable),
    ("foreign_columns", ofList .text r.foreignColumns), ("on_update", .null),
    ("on_delete", .text r.onDelete)]

def TableReport.toJson (r : TableReport) : Json :=
  .object [("name", .text r.name), ("schema", .text r.schema), ("size", ofOption ofUInt64 r.size),
    ("comment", ofOption .text r.comment), ("collation", ofOption .text r.collation)]

end OracleSql
