import OracleSql.Session.Dictionary
import OracleSql.Session.Schema

/-!
# Commands of a session

A `Command` is one thing that a session can be told to do, and a `Result` is what it yields.
`Session.run` carries out commands one after another, with the replies that become available
before each; a command that fails does not end the session.
-/

namespace OracleSql

inductive Command where
  | configure
  | select (query : Query)
  | anyRow (query : Query)
  | insert (insert : Insert)
  | insertGetId (insert : Insert)
  | insertBlobs (insert : Insert)
  | update (update : Update)
  | updateBlobs (update : Update)
  | delete (delete : Delete)
  | truncate (table : String)
  | create (blueprint : Blueprint)
  | alter (blueprint : Blueprint)
  | drop (table : String)
  | dropIfExists (table : String)
  | primaryKey (table : String)
  | dropAllTables
  | owner
  | hasTable (table : String)
  | hasColumn (table column : String)
  | columnListing (table : String)
  | columns (table : String)
  | indexes (table : String)
  | foreignKeys (table : String)
  | tables
  | toggleForeignKeys (enable : Bool)
  | createSequence (spec : SequenceSpec)
  | dropSequence (name : String)
  | sequenceExists (name : String)
  | nextNumber (name : String)
  | currentNumber (name : String)
  | triggerExists (name : String)
  | dropTrigger (name : String)
  | callProcedure (call : ProcedureCall)
  | callFunction (call : ProcedureCall) (returns : OutBinding)

inductive Result where
  | done
  | count (n : UInt64)
  | number (n : Int64)
  | key (n : Option Int64)
  | flag (b : Bool)
  | text (s : String)
  | name (s : Option String)
  | names (names : List String)
  | rows (rows : List Row)
  | columns (reports : List ColumnReport)
  | indexes (reports : List IndexReport)
  | foreignKeys (reports : List ForeignKeyReport)
  | tables (reports : List TableReport)
  | outputs (outputs : Outputs)
  | output (value : OutValue)

namespace Step

/-- Call a procedure; the values of its outputs by name. -/
def callProcedure (p : ProcedureCall) : Step Outputs := do
  ask (.call (← ofCompile p.compile))

/-- Call a function; the value of its result. -/
def callFunction (p : ProcedureCall) (returns : OutBinding) : Step OutValue := do
  let outputs : Outputs ← ask (.call (← ofCompile (p.compileFunction returns)))
  return (outputs.lookup ProcedureCall.resultBind).getD .null

end Step

/-- **The step of a command.** -/
def Command.step : Command → Step Result
  | configure => do Step.configure; return .done
  | select q => return .rows (← Step.select q)
  | anyRow q => return .flag (← Step.anyRow q)
  | insert i => return .count (← Step.insert i)
  | insertGetId i => return .key (← Step.insertGetId i)
  | insertBlobs i => return .key (← Step.insertBlobs i)
  | update u => return .count (← Step.update u)
  | updateBlobs u => return .key (← Step.updateBlobs u)
  | delete d => return .count (← Step.delete d)
  | truncate table => do Step.truncate table; return .done
  | create b => do Step.create b; return .done
  | alter b => do Step.alter b; return .done
  | drop table => do Step.drop table false; return .done
  | dropIfExists table => do Step.drop table true; return .done
  | primaryKey table => return .name (← Step.primaryKey table)
  | dropAllTables => do Step.dropAllTables; return .done
  | owner => return .text (← Step.owner)
  | hasTable table => return .flag (← Step.hasTable table)
  | hasColumn table column => return .flag (← Step.hasColumn table column)
  | columnListing table => return .names (← Step.columnListing table)
  | columns table => return .columns (← Step.columns table)
  | indexes table => return .indexes (← Step.indexes table)
  | foreignKeys table => return .foreignKeys (← Step.foreignKeys table)
  | tables => return .tables (← Step.tables)
  | toggleForeignKeys enable => do Step.toggleForeignKeys enable; return .done
  | createSequence s => do Step.createSequence s; return .done
  | dropSequence name => do Step.dropSequence name; return .done
  | sequenceExists name => return .flag (← Step.sequenceExists name)
  | nextNumber name => return .number (← Step.nextNumber name)
  | currentNumber name => return .number (← Step.currentNumber name)
  | triggerExists name => return .flag (← Step.triggerExists name)
  | dropTrigger name => do Step.dropTrigger name; return .done
  | callProcedure p => return .outputs (← Step.callProcedure p)
  | callFunction p returns => return .output (← Step.callFunction p returns)

/-- Carry out one command when further replies have become available. -/
def Session.perform (s : Session) (replies : Script) (c : Command) : Outcome Result :=
  c.step { s with script := s.script.append replies }

/-- **Carry out commands one after another**; how each ends. -/
def Session.run (s : Session) : List (Script × Command) → List (Outcome Result)
  | [] => []
  | (replies, c) :: rest =>
    let o := s.perform replies c
    o :: o.session.run rest

/-- **What holds of every step holds of every outcome of a run.** -/
theorem Session.forall_mem_run {P : Outcome Result → Prop}
    (hstep : ∀ (c : Command) (s : Session), P (c.step s)) (s : Session)
    (steps : List (Script × Command)) : ∀ o ∈ s.run steps, P o := by
  induction steps generalizing s with
  | nil => exact fun o ho => absurd ho List.not_mem_nil
  | cons step rest ih =>
    obtain ⟨replies, c⟩ := step
    rw [Session.run, List.forall_mem_cons]
    exact ⟨hstep c _, ih _⟩

end OracleSql
