import OracleSql.Query.Basic

/-!
# Inserts, updates and deletes

Descriptions of the statements that change rows.  A row is an ordered list of columns and values.
Large binary columns are listed apart from the row: they are written through locators after the
statement has run, so a write that has any also returns them, and last its key.
-/

namespace OracleSql

/-- The columns of a row with their values, in order. -/
abbrev RowValues := List (String × Value)

/-- Large binary columns with their content. -/
abbrev BinaryColumns := List (String × List UInt8)

/-- The key column of a table that does not name one. -/
def defaultKeyColumn : String := "id"

/-- An insert of one row or of a batch. -/
structure Insert where
  table : String
  rows : List RowValues
  binaryColumns : BinaryColumns
  /-- The column whose generated value the insert returns. -/
  keyColumn? : Option String
  /-- Whether to draw the key from a sequence before the insert when the row has none. -/
  usesSequence : Bool
  /-- The sequence to draw from; by default it is named after table and key column. -/
  sequenceName : Option String
deriving DecidableEq

namespace Insert

def into (table : String) : Insert :=
  ⟨table, [], [], none, false, none⟩

def row (i : Insert) (values : RowValues) : Insert :=
  { i with rows := i.rows ++ [values] }

/-- The key column, `id` unless another is named. -/
def keyColumn (i : Insert) : String :=
  i.keyColumn?.getD defaultKeyColumn

/-- Whether a row gives the key a value other than null. -/
def rowHasKey (key : String) (row : RowValues) : Bool :=
  row.any fun (column, value) => Text.sameIgnoringCase column key && !value.isNull

/-- Whether the first row gives the key. -/
def hasExplicitKey (i : Insert) : Bool :=
  i.rows.head?.any (rowHasKey i.keyColumn)

end Insert

/-- An update of the rows that meet a condition. -/
structure Update where
  table : String
  assignments : List (String × Value)
  joins : List Join
  wheres : List Predicate
  binaryColumns : BinaryColumns
  keyColumn? : Option String

namespace Update

def of (table : String) : Update :=
  ⟨table, [], [], [], [], none⟩

def set (u : Update) (column : String) (value : Value) : Update :=
  { u with assignments := u.assignments ++ [(column, value)] }

def filter (u : Update) (p : Predicate) : Update :=
  { u with wheres := u.wheres ++ [p] }

/-- The key column, `id` unless another is named. -/
def keyColumn (u : Update) : String :=
  u.keyColumn?.getD defaultKeyColumn

end Update

/-- A delete of the rows that meet a condition. -/
structure Delete where
  table : String
  wheres : List Predicate

namespace Delete

def of (table : String) : Delete :=
  ⟨table, []⟩

def filter (d : Delete) (p : Predicate) : Delete :=
  { d with wheres := d.wheres ++ [p] }

end Delete

end OracleSql
