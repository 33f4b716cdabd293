import OracleSql.Dictionary.Query
import OracleSql.Dictionary.Report
import OracleSql.Session.Step

/-!
# Asking the data dictionary

The steps that look tables up.  All of them need the owner: it is the configured schema, or else
the schema that the database names when it is asked for the first time.
-/

namespace OracleSql.Step

/-- The schema in the first row. -/
def schemaOfRows (rows : List Row) : Option String :=
  rows.head?.bind fun row => row.text? "schema"

/-- **The owner of the tables.** -/
def owner : Step String := do
  match ← knownOwner with
  | some owner => return owner
  | none =>
    match schemaOfRows (← fetch (Statement.ofText Dictionary.currentSchemaSql)) with
    | some owner =>
      keepOwner owner
      return owner
    | none => fail (.execution "current schema is unknown")

/-- Fetch the rows of a query about the owner. -/
def fetchOwned (query : Config → String → Statement) : Step (List Row) := do
  let owner ← owner
  fetch (query (← config) owner)

def hasTable (table : String) : Step Bool := do
  return !(← fetchOwned fun c owner => Dictionary.tableExists c owner table).isEmpty

def hasColumn (table column : String) : Step Bool := do
  let rows ← fetchOwned fun c owner => Dictionary.columnExists c owner table column
  return decide (0 < Row.count rows)

def columnListing (table : String) : Step (List String) := do
  return Row.columnListing (← fetchOwned fun c owner => Dictionary.columnListing c owner table)

def columns (table : String) : Step (List ColumnReport) := do
  return (← fetchOwned fun c owner => Dictionary.columns c owner table).map Row.columnReport

def indexes (table : String) : Step (List IndexReport) := do
  return indexReports (← fetchOwned fun c owner => Dictionary.indexes c owner table)

def foreignKeys (table : String) : Step (List ForeignKeyReport) := do
  return (← fetchOwned fun c owner => Dictionary.foreignKeys c owner table).map
    Row.foreignKeyReport

def tables : Step (List TableReport) := do
  return (← fetchOwned fun _ owner => Dictionary.tables owner).map Row.tableReport

/-- Enable or disable all foreign keys of the owner. -/
def toggleForeignKeys (enable : Bool) : Step Unit := do
  let _ ← executeSql (Dictionary.toggleForeignKeys (← owner) enable)

end OracleSql.Step
