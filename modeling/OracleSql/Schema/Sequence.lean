import OracleSql.Identifier.Basic
import OracleSql.Schema.Blueprint
import OracleSql.Statement

/-!
# Sequences and triggers

The statements that create, drop and query a sequence or trigger.  A drop is a block that passes
over exactly one error, that of an object which does not exist.
-/

namespace OracleSql

open Identifier

/-- A block that drops an object and passes over the error of a missing one. -/
def dropBlock (code statement : String) : String :=
  "declare e exception; pragma exception_init(e," ++ code ++ "); begin execute immediate '"
    ++ statement ++ "'; exception when e then null; end;"

namespace SequenceSpec

/-- The error number of a sequence that does not exist. -/
def missingCode : String := "-02289"

def createSql (c : Config) (s : SequenceSpec) : String :=
  "create sequence " ++ qualify c s.name ++ " minvalue " ++ toString s.minValue.toNat
    ++ (match s.maxValue with
        | some bound => " maxvalue " ++ toString bound.toNat
        | none => "")
    ++ " start with " ++ toString s.startValue.toNat
    ++ " increment by " ++ toString s.incrementBy.toNat
    ++ (if s.nocache then " nocache" else "")

/-- The statement under which a sequence is dropped. -/
def dropStatement (c : Config) (name : String) : String :=
  "drop sequence " ++ qualify c name

def dropSql (c : Config) (name : String) : String :=
  dropBlock missingCode (dropStatement c name)

def existsQuery (name : String) : Statement :=
  ⟨"select * from all_sequences where sequence_name = upper(?) and sequence_owner = upper(user)",
    [.text name], []⟩

def nextSql (c : Config) (name : String) : String :=
  "select " ++ qualify c name ++ ".nextval as \"id\" from dual"

/-- The query for the number drawn last. -/
def currentSql (c : Config) (name : String) : String :=
  "select " ++ qualify c name ++ ".currval as \"id\" from dual"

end SequenceSpec

namespace TriggerSpec

/-- The error number of a trigger that does not exist. -/
def missingCode : String := "-4080"

/-- The trigger that draws a column from its sequence when it is null. -/
def createSql (c : Config) (t : TriggerSpec) : String :=
  let column := wrapValue c t.column
  "create trigger " ++ qualify c t.name ++ " before insert on " ++ wrapTable c t.table
    ++ " for each row begin if :new." ++ column ++ " is null then select "
    ++ qualify c t.sequenceName ++ ".nextval into :new." ++ column ++ " from dual; end if; end;"

def dropStatement (c : Config) (name : String) : String :=
  "drop trigger " ++ qualify c name

def dropSql (c : Config) (name : String) : String :=
  dropBlock missingCode (dropStatement c name)

def existsQuery (name : String) : Statement :=
  ⟨"select * from all_triggers where trigger_name = upper(?) and owner = upper(user)",
    [.text name], []⟩

end TriggerSpec

end OracleSql
