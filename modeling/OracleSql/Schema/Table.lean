import OracleSql.Identifier.Generated
import OracleSql.Schema.ColumnSql

/-!
# Tables, constraints and comments

The statements on a table itself: creating it with its keys, adding, modifying and renaming
columns, adding and dropping constraints and indexes, and commenting on it and its columns.
-/

namespace OracleSql

open Identifier

def alterTable (c : Config) (table : String) : String :=
  "alter table " ++ wrapTable c table

namespace ForeignKey

/-- What follows the name of the constraint. -/
def referenceSql (c : Config) (f : ForeignKey) : String :=
  " foreign key ( " ++ columnList c f.columns ++ " ) references " ++ wrapTable c f.on ++ " ( "
    ++ columnList c f.references ++ " )"
    ++ (match f.onDelete with
        | some action => " on delete " ++ action
        | none => "")

/-- The constraint, with its name. -/
def constraintSql (c : Config) (table : String) (f : ForeignKey) : Compile String :=
  return "constraint " ++ (← specName c table .foreign f.spec) ++ f.referenceSql c

end ForeignKey

def foreignKeys (commands : List SchemaCommand) : List ForeignKey :=
  commands.filterMap fun
    | .foreign key => some key
    | _ => none

/-- The first primary key of a list of commands. -/
def primaryKey? (commands : List SchemaCommand) : Option IndexSpec :=
  commands.findSome? fun
    | .primary spec => some spec
    | _ => none

namespace Blueprint

/-- **The statement that creates the table** with its new columns, all foreign keys and the first
primary key. -/
def createSql (c : Config) (b : Blueprint) (commands : List SchemaCommand) : Compile String := do
  if b.added.isEmpty then throw (.createWithoutColumns b.name)
  let foreign ← (foreignKeys commands).mapM (ForeignKey.constraintSql c b.name)
  let primary ←
    match primaryKey? commands with
    | some spec => do
      let name ← specName c b.name .primary spec
      pure ["constraint " ++ name ++ " primary key ( " ++ columnList c spec.columns ++ " )"]
    | none => pure []
  return "create table " ++ wrapTable c b.name ++ " ( "
    ++ ", ".intercalate (b.added.map (Column.definitionSql c) ++ foreign ++ primary) ++ " )"

/-- The statement that adds the new columns, if there are any. -/
def addSql (c : Config) (b : Blueprint) : List String :=
  if b.added.isEmpty then []
  else [alterTable c b.name ++ " add ( "
    ++ ", ".intercalate (b.added.map (Column.definitionSql c)) ++ " )"]

/-- One statement for each column to modify; it repeats the whole definition. -/
def changeSql (c : Config) (b : Blueprint) : Compile (List String) :=
  if b.changed.isEmpty then throw (.missingChangeColumn b.name)
  else return b.changed.map fun column =>
    alterTable c b.name ++ " modify " ++ column.definitionSql c

def dropColumnsSql (c : Config) (b : Blueprint) (columns : List String) : String :=
  alterTable c b.name ++ " drop ( " ++ columnList c columns ++ " )"

/-- The statement that renames the table; the new name stands without schema. -/
def renameSql (c : Config) (b : Blueprint) (name : String) : String :=
  alterTable c b.name ++ " rename to " ++ wrapValue c (prefixedTable c name)

def renameColumnSql (c : Config) (b : Blueprint) (old new : String) : String :=
  alterTable c b.name ++ " rename column " ++ wrap c old ++ " to " ++ wrap c new

def addPrimarySql (c : Config) (b : Blueprint) (spec : IndexSpec) : Compile String :=
  return alterTable c b.name ++ " add constraint " ++ (← specName c b.name .primary spec)
    ++ " primary key (" ++ columnList c spec.columns ++ ")"

def addForeignSql (c : Config) (b : Blueprint) (f : ForeignKey) : Compile String :=
  return alterTable c b.name ++ " add " ++ (← f.constraintSql c b.name)

def addUniqueSql (c : Config) (b : Blueprint) (spec : IndexSpec) : Compile String :=
  return alterTable c b.name ++ " add constraint " ++ (← specName c b.name .unique spec)
    ++ " unique ( " ++ columnList c spec.columns ++ " )"

def createIndexSql (c : Config) (b : Blueprint) (spec : IndexSpec) : Compile String :=
  return "create index " ++ (← specName c b.name .index spec) ++ " on " ++ wrapTable c b.name
    ++ " ( " ++ columnList c spec.columns ++ " )"

def dropConstraintSql (c : Config) (b : Blueprint) (kind : IndexKind) (spec : IndexSpec) :
    Compile String :=
  return alterTable c b.name ++ " drop constraint " ++ (← specName c b.name kind spec)

def dropIndexSql (c : Config) (b : Blueprint) (spec : IndexSpec) : Compile String :=
  return "drop index " ++ (← specName c b.name .index spec)

/-! ### Comments -/

/-- The columns with their comments: those of the new columns, of the modified ones, and the
further ones. -/
def commentedColumns (b : Blueprint) : List (String × String) :=
  ((b.added ++ b.changed).filterMap fun column =>
      column.comment.map fun text => (column.name, text))
    ++ b.columnComments

def commentsSql (c : Config) (b : Blueprint) : List String :=
  let table := wrapTable c b.name
  (b.comment.toList.map fun text => "comment on table " ++ table ++ " is " ++ quote text)
    ++ b.commentedColumns.map fun (column, text) =>
      "comment on column " ++ table ++ "." ++ wrapValue c column ++ " is " ++ quote text

end Blueprint

def dropTableSql (c : Config) (table : String) : String :=
  "drop table " ++ wrapTable c table

/-- The block that drops a table and passes over every error. -/
def dropTableIfExistsSql (c : Config) (table : String) : String :=
  "begin execute immediate '" ++ dropTableSql c table
    ++ "'; exception when others then null; end;"

/-- The block that drops every table of the user, then every sequence. -/
def dropAllTablesSql : String :=
  "BEGIN FOR c IN (SELECT table_name FROM user_tables WHERE secondary = 'N' "
    ++ "AND nvl(iot_type, 'X') != 'IOT_OVERFLOW') LOOP "
    ++ "EXECUTE IMMEDIATE ('DROP TABLE \"' || c.table_name || '\" CASCADE CONSTRAINTS'); END LOOP; "
    ++ "FOR s IN (SELECT sequence_name FROM user_sequences) LOOP "
    ++ "EXECUTE IMMEDIATE ('DROP SEQUENCE ' || s.sequence_name); END LOOP; END;"

end OracleSql
