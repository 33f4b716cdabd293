import OracleSql.Identifier.Generated
import OracleSql.Schema.Sequence

/-!
# Automatic numbering

A column is numbered by a sequence and a trigger.  Their names follow from the table and the
column, so they can be found again from the primary key that the data dictionary reports.
-/

namespace OracleSql

open Identifier

/-- The objects that number a column. -/
structure Numbering where
  sequence : SequenceSpec
  trigger : TriggerSpec
deriving DecidableEq

namespace Numbering

/-- The objects for the automatically numbered column of a blueprint, if it has one. -/
def ofBlueprint (c : Config) (b : Blueprint) : Compile (Option Numbering) :=
  match b.serial? with
  | none => return none
  | some column => do
    let sequence ← sequenceName c b.name column.name
    let trigger ← triggerName c b.name column.name
    let spec := SequenceSpec.of sequence
    return some
      { sequence :=
          { spec with
            startValue := column.startValue.getD spec.startValue
            nocache := column.nocache }
        trigger := ⟨trigger, b.name, column.name, sequence⟩ }

/-- The sequence, then the trigger; both need the table. -/
def createSql (c : Config) (n : Numbering) : List String :=
  [n.sequence.createSql c, n.trigger.createSql c]

/-- The blocks that drop the objects of a column. -/
def dropSql (c : Config) (table column : String) : Compile (List String) := do
  let sequence ← sequenceName c table column
  let trigger ← triggerName c table column
  return [SequenceSpec.dropSql c sequence, TriggerSpec.dropSql c trigger]

end Numbering

/-- The query for the first primary key column of a table. -/
def primaryKeySql : String :=
  "SELECT cols.column_name FROM all_constraints cons, all_cons_columns cols "
    ++ "WHERE upper(cols.table_name) = upper(?) AND cons.constraint_type = 'P' "
    ++ "AND cons.constraint_name = cols.constraint_name AND cons.owner = cols.owner "
    ++ "AND cols.position = 1 AND cons.owner = (select user from dual)"

def primaryKeyQuery (c : Config) (table : String) : Statement :=
  ⟨primaryKeySql, [.text (prefixedTable c table)], []⟩

end OracleSql
