import OracleSql.Schema.AutoIncrement
import OracleSql.Schema.FullText
import OracleSql.Schema.Table

/-!
# Plans

A blueprint becomes a list of statements in the order in which they have to run: preferences
before the indexes that read through them, then one command after another, then comments, and
last the sequence and the trigger that number a column.

The columns of a blueprint imply commands of their own.  A table that is not created gets its new
and modified columns first; a flag on a column becomes a key or an index; and the column that is
numbered becomes the primary key unless there is one.
-/

namespace OracleSql

namespace SchemaCommand

def isPrimary : SchemaCommand → Bool
  | primary _ => true
  | _ => false

end SchemaCommand

namespace Blueprint

/-- The commands that bring the columns into a table which exists already. -/
def columnCommands (b : Blueprint) : List SchemaCommand :=
  if b.isCreating then []
  else (if b.added.isEmpty then [] else [.add]) ++ (if b.changed.isEmpty then [] else [.change])

/-- The commands that the flags of columns imply; `hasPrimary` says whether a primary key has
been declared before. -/
def flagCommands (hasPrimary : Bool) : List Column → List SchemaCommand
  | [] => []
  | column :: rest =>
    let on : IndexSpec := ⟨none, [column.name]⟩
    let isPrimary := (column.primary || column.isSerial) && !hasPrimary
    (if isPrimary then [.primary on] else [])
      ++ (if column.unique then [.unique on] else [])
      ++ (if column.index then [.index on] else [])
      ++ flagCommands (hasPrimary || isPrimary) rest

/-- **All commands of the blueprint**, its own and the implied ones. -/
def allCommands (b : Blueprint) : List SchemaCommand :=
  b.columnCommands ++ b.commands ++ flagCommands (b.commands.any (·.isPrimary)) b.added

/-- The statements of one command.  Keys of a table that is created stand in its statement. -/
def commandSql (c : Config) (b : Blueprint) (command : SchemaCommand) : Compile (List String) :=
  match command with
  | .create => return [← b.createSql c b.allCommands]
  | .add => return b.addSql c
  | .change => b.changeSql c
  | .drop => return [dropTableSql c b.name]
  | .dropIfExists => return [dropTableIfExistsSql c b.name]
  | .dropColumns columns => return [b.dropColumnsSql c columns]
  | .rename name => return [b.renameSql c name]
  | .renameColumn old new => return [b.renameColumnSql c old new]
  | .primary spec => if b.isCreating then return [] else return [← b.addPrimarySql c spec]
  | .foreign key => if b.isCreating then return [] else return [← b.addForeignSql c key]
  | .unique spec => return [← b.addUniqueSql c spec]
  | .index spec => return [← b.createIndexSql c spec]
  | .fulltext spec => return [← spec.createFulltext c b.name]
  | .dropPrimary spec => return [← b.dropConstraintSql c .primary spec]
  | .dropUnique spec => return [← b.dropConstraintSql c .unique spec]
  | .dropForeign spec => return [← b.dropConstraintSql c .foreign spec]
  | .dropIndex spec => return [← b.dropIndexSql c spec]
  | .dropFulltext spec => return [← spec.dropFulltext c b.name]

/-- **The statements of a blueprint**, in the order in which they have to run. -/
def plan (c : Config) (b : Blueprint) : Compile (List String) := do
  let preferences ← Preference.ofBlueprint c b
  let commands ← b.allCommands.mapM (b.commandSql c)
  let numbering ← Numbering.ofBlueprint c b
  return (Preference.createSql? c preferences).toList ++ commands.flatten ++ b.commentsSql c
    ++ (match numbering with
        | some n => n.createSql c
        | none => [])

end Blueprint

/-- **The statements that drop a table** and what belongs to it: the objects that number its
primary key, its preferences, and the table. -/
def dropPlan (c : Config) (table : String) (primaryKey : Option String) (ifExists : Bool) :
    Compile (List Statement) := do
  let numbering ←
    match primaryKey with
    | some column => Numbering.dropSql c table column
    | none => pure []
  return numbering.map Statement.ofText ++ [Preference.dropOfTable c table,
    Statement.ofText (if ifExists then dropTableIfExistsSql c table else dropTableSql c table)]

end OracleSql
