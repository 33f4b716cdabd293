import OracleSql.Schema.Plan
import OracleSql.Session.Rows
import OracleSql.SessionOptions

/-!
# Changing the schema

The steps that set up the session and that create, alter and drop tables, sequences and triggers.
A table is dropped together with the objects that number its primary key, which the data
dictionary is asked for first.
-/

namespace OracleSql.Step

def configure : Step Unit := do
  let _ ← executeSql (← config).sessionSql

def executeAll (statements : List String) : Step Unit :=
  statements.forM fun sql => do
    let _ ← executeSql sql

def alter (b : Blueprint) : Step Unit := do
  executeAll (← ofCompile (b.plan (← config)))

/-- **Create the table of a blueprint**, whether the blueprint says so or not. -/
def create (b : Blueprint) : Step Unit :=
  alter (if b.isCreating then b else { b with commands := .create :: b.commands })

/-- The first primary key column of a table, in lower case. -/
def primaryKey (table : String) : Step (Option String) := do
  let rows ← fetch (primaryKeyQuery (← config) table)
  return (rows.head?.bind fun row => row.text? "column_name").map Text.lower

/-- **Drop a table and what belongs to it.** -/
def drop (table : String) (ifExists : Bool) : Step Unit := do
  let key ← primaryKey table
  let statements ← ofCompile (dropPlan (← config) table key ifExists)
  statements.forM fun statement => do
    let _ ← execute statement

/-- Drop all preferences, tables and sequences of the user. -/
def dropAllTables : Step Unit :=
  executeAll [Preference.dropAll, dropAllTablesSql]

/-! ### Sequences and triggers -/

def createSequence (s : SequenceSpec) : Step Unit := do
  let _ ← executeSql (s.createSql (← config))

def dropSequence (name : String) : Step Unit := do
  let _ ← executeSql (SequenceSpec.dropSql (← config) name)

def sequenceExists (name : String) : Step Bool := do
  return !(← fetch (SequenceSpec.existsQuery name)).isEmpty

def dropTrigger (name : String) : Step Unit := do
  let _ ← executeSql (TriggerSpec.dropSql (← config) name)

def triggerExists (name : String) : Step Bool := do
  return !(← fetch (TriggerSpec.existsQuery name)).isEmpty

end OracleSql.Step
