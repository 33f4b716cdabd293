import OracleSql.Query.Compile
import OracleSql.Write.Basic

/-!
# Compilation of inserts, updates and deletes

A batch takes the columns of its first row; every other row is arranged in their order
(`arrange`), and a row with other columns is refused.  One row is inserted with `values`, several
as a union of selects from `dual`, since `values` takes one row only.

Large binary columns are written as `EMPTY_BLOB()`, and the statement returns their locators and
then the key.
-/

namespace OracleSql

open Identifier

/-- The value that a row has for a column: the first one given. -/
def RowValues.value? (row : RowValues) (column : String) : Option Value :=
  row.lookup column

def RowValues.columns (row : RowValues) : List String :=
  row.map Prod.fst

/-- The values of a row in the order of the given columns; refused when it has not as many
columns or lacks one. -/
def arrangeRow? (columns : List String) (row : RowValues) : Option (List Value) :=
  if row.length = columns.length then columns.mapM row.value? else none

/-- The values of all rows in the order of the given columns; the first row that cannot be
arranged is the error. -/
def arrange (columns : List String) : Nat → List RowValues → Compile (List (List Value))
  | _, [] => return []
  | index, row :: rows =>
    match arrangeRow? columns row with
    | none => throw (.columnMismatch index columns row.columns)
    | some values => return values :: (← arrange columns (index + 1) rows)

/-- The columns of the first row, and all rows in their order. -/
def arrangeRows (rows : List RowValues) : Compile (List String × List (List Value)) :=
  match rows with
  | [] => throw .emptyInsert
  | first :: _ => return (first.columns, ← arrange first.columns 0 rows)

/-- The start of an insert, `insert into table (columns)`. -/
def insertHead (c : Config) (table : String) (columns : List String) : String :=
  "insert into " ++ wrapTable c table ++ " (" ++ columnList c columns ++ ")"

/-- The output binds of a write of large objects: their locators, then the key. -/
def locatorBinds (binary : BinaryColumns) (key : String) : List OutBinding :=
  binary.map (fun column => OutBinding.blobLocator column.1) ++ [OutBinding.key key]

namespace Insert

/-- The rows, after the head of the statement. -/
def rowsClause : List (List Value) → Sql
  | [row] => " values (" ++ Sql.ofValues row ++ ")"
  | rows =>
    " " ++ Sql.joined " union all "
      (rows.map fun row => "select " ++ Sql.ofValues row ++ " from dual")

/-- An insert that returns nothing. -/
def plain (c : Config) (i : Insert) : Compile Sql := do
  let (columns, rows) ← arrangeRows i.rows
  if columns.isEmpty then throw (.insertWithoutColumns i.table)
  return insertHead c i.table columns ++ rowsClause rows

def compile (c : Config) (i : Insert) : Compile Statement :=
  return (← i.plain c).statement

/-- An insert that returns its generated key, unless the row gives one. -/
def returningKey (c : Config) (i : Insert) : Compile Sql := do
  if 1 < i.rows.length then throw .keyOfSeveralRows
  let sql ← i.plain c
  if i.hasExplicitKey then return sql
  return sql ++ (" returning " ++ wrap c i.keyColumn ++ " into ")
    ++ Sql.ofOut (OutBinding.key i.keyColumn)

/-- **The statement of an insert that returns its key.** -/
def compileGetId (c : Config) (i : Insert) : Compile Statement :=
  return (← i.returningKey c).statement

/-- **The statement of an insert of large objects**: empty ones, whose locators are returned.
The row itself may be missing. -/
def compileBlobs (c : Config) (i : Insert) : Compile Statement := do
  if 1 < i.rows.length then throw .blobsOfSeveralRows
  if i.binaryColumns.isEmpty then return ← i.compileGetId c
  let (columns, rows) ← if i.rows.isEmpty then pure ([], [[]]) else arrangeRows i.rows
  let binary := i.binaryColumns.map Prod.fst
  let values := rows.headD [] |>.map Sql.ofValue
  let sql : Sql := insertHead c i.table (columns ++ binary) ++ " values ("
    ++ Sql.joined ", " (values ++ binary.map fun _ => Sql.ofText "EMPTY_BLOB()")
    ++ (") returning " ++ columnList c (binary ++ [i.keyColumn]) ++ " into ")
    ++ Sql.ofOuts (locatorBinds i.binaryColumns i.keyColumn)
  return sql.statement

end Insert

namespace Update

/-- An update with further assignments after its own. -/
def body (c : Config) (u : Update) (further : List Sql) : Compile Sql := do
  if u.assignments.isEmpty && further.isEmpty then throw (.updateWithoutAssignments u.table)
  let joins ← compileJoins c u.joins
  let assignments := u.assignments.map fun (column, value) =>
    (wrap c column ++ " = ") ++ Sql.ofValue value
  let wheres ← compileWheres c u.wheres
  return ("update " ++ wrapTable c u.table) ++ joins ++ " set "
    ++ Sql.joined ", " (assignments ++ further) ++ wheres

def compile (c : Config) (u : Update) : Compile Statement :=
  return (← u.body c []).statement

/-- **The statement of an update of large objects**: empty ones, whose locators are returned. -/
def compileBlobs (c : Config) (u : Update) : Compile Statement := do
  if u.binaryColumns.isEmpty then return ← u.compile c
  let binary := u.binaryColumns.map Prod.fst
  let sql ← u.body c (binary.map fun column => Sql.ofText (wrap c column ++ " = EMPTY_BLOB()"))
  let sql : Sql := sql ++ (" returning " ++ columnList c (binary ++ [u.keyColumn]) ++ " into ")
    ++ Sql.ofOuts (locatorBinds u.binaryColumns u.keyColumn)
  return sql.statement

end Update

namespace Delete

def compile (c : Config) (d : Delete) : Compile Statement := do
  let wheres ← compileWheres c d.wheres
  let sql : Sql := ("delete from " ++ wrapTable c d.table) ++ wheres
  return sql.statement

end Delete

def truncateTable (c : Config) (table : String) : String :=
  "truncate table " ++ wrapTable c table

end OracleSql
