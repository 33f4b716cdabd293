import OracleSql.Identifier.Generated
import OracleSql.Schema.Sequence
import OracleSql.Session.Step
import OracleSql.Write.Compile

/-!
# Reading and changing rows

The steps that run queries, inserts, updates and deletes.  A query that locks runs within a
transaction.  An insert may draw its key from a sequence first, and one with large binary columns
inserts empty ones, receives their locators, and writes their content within one transaction.
-/

namespace OracleSql.Step

/-! ### Sequences -/

/-- The number in the field `id` of the first row. -/
def drawnNumber (rows : List Row) : Option Int64 :=
  (rows.head?.bind fun row => row.number? "id").map UInt64.toInt64

/-- Run a query for a number of a sequence. -/
def sequenceNumber (sql : String) : Step Int64 := do
  match drawnNumber (← fetch (Statement.ofText sql)) with
  | some n => return n
  | none => fail (.execution "sequence returned no value")

def nextNumber (name : String) : Step Int64 := do
  sequenceNumber (SequenceSpec.nextSql (← config) name)

/-- The number that the session has drawn last from a sequence. -/
def currentNumber (name : String) : Step Int64 := do
  sequenceNumber (SequenceSpec.currentSql (← config) name)

/-! ### Queries -/

/-- **The rows of a query**; one that locks runs within a transaction. -/
def select (q : Query) : Step (List Row) := do
  let statement ← ofCompile (q.select (← config))
  if q.hasLock then transaction (fetch statement) else fetch statement

def anyRow (q : Query) : Step Bool := do
  return !(← fetch (← ofCompile (q.exists? (← config)))).isEmpty

/-! ### Inserts -/

/-- Insert rows; the number of them. -/
def insert (i : Insert) : Step UInt64 := do
  execute (← ofCompile (i.compile (← config)))

/-- Give a row its key, in front and in place of any other value for it. -/
def putKey (key : String) (n : Int64) (row : RowValues) : RowValues :=
  (key, .int n) :: row.filter fun (column, _) => !Text.sameIgnoringCase column key

/-- Whether the key is drawn before the insert: the insert says so, it has one row, and the row
does not give the key. -/
def drawsKey (i : Insert) : Bool :=
  i.usesSequence && i.rows.length == 1 && !i.hasExplicitKey

/-- The sequence from which the key of an insert is drawn. -/
def keySequence (c : Config) (i : Insert) : Compile String :=
  match i.sequenceName with
  | some name => return name
  | none => Identifier.sequenceName c i.table i.keyColumn

def assignKey (i : Insert) : Step Insert := do
  if drawsKey i then
    let n ← nextNumber (← ofCompile (keySequence (← config) i))
    return { i with rows := i.rows.map (putKey i.keyColumn n) }
  else return i

/-- The integer that the first row gives for the key. -/
def explicitKey (i : Insert) : Option Int64 :=
  i.rows.head?.bind fun row => row.findSome? fun
    | (column, .int n) => if Text.sameIgnoringCase column i.keyColumn then some n else none
    | _ => none

/-- **Insert one row and yield its key**, drawn, given or generated. -/
def insertGetId (i : Insert) : Step (Option Int64) := do
  let i ← assignKey i
  let statement ← ofCompile (i.compileGetId (← config))
  if statement.outputs.isEmpty then
    let _ ← execute statement
    return explicitKey i
  else return (← executeReturning statement).head?.bind OutValue.int64?

/-! ### Large binary columns -/

/-- Write the content of columns into the locators among the outputs, each into the one at its
place. -/
def writeBlobs : BinaryColumns → List OutValue → Step Unit
  | [], _ => return ()
  | (column, content) :: rest, outputs => do
    match outputs.head?.bind OutValue.locator? with
    | none => fail (.lobWrite column "no locator returned")
    | some locator =>
      match ← attempt (ask (.writeBlob locator content)) with
      | .ok () => writeBlobs rest outputs.tail
      | .error e => fail (.lobWrite column e.message)

/-- **Run a statement that returns locators and write the content**, all in one transaction.  The
output behind the locators is the key. -/
def writeThroughLocators (statement : Statement) (binary : BinaryColumns) :
    Step (Option Int64) :=
  transaction do
    let outputs ← executeReturning statement
    writeBlobs binary outputs
    return outputs[binary.length]?.bind OutValue.int64?

/-- Insert one row with its large binary columns, and yield its key. -/
def insertBlobs (i : Insert) : Step (Option Int64) := do
  if i.binaryColumns.isEmpty then insertGetId i
  else
    let i ← assignKey i
    writeThroughLocators (← ofCompile (i.compileBlobs (← config))) i.binaryColumns

/-! ### Updates and deletes -/

/-- Update rows; the number of them. -/
def update (u : Update) : Step UInt64 := do
  execute (← ofCompile (u.compile (← config)))

/-- Update one row with its large binary columns, and yield its key. -/
def updateBlobs (u : Update) : Step (Option Int64) := do
  if u.binaryColumns.isEmpty then
    let _ ← update u
    return none
  else writeThroughLocators (← ofCompile (u.compileBlobs (← config))) u.binaryColumns

/-- Delete rows; the number of them. -/
def delete (d : Delete) : Step UInt64 := do
  execute (← ofCompile (d.compile (← config)))

def truncate (table : String) : Step Unit := do
  let _ ← executeSql (truncateTable (← config) table)

end OracleSql.Step
