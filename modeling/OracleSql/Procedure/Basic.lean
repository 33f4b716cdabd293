import OracleSql.Value

/-!
# Calls of procedures and functions

A call names its procedure and its parameters, each with a value to pass in or a bind to receive.
-/

namespace OracleSql

inductive ProcedureParam where
  | input (value : Value)
  | output (binding : OutBinding)
deriving DecidableEq

/-- A call of a stored procedure or function. -/
structure ProcedureCall where
  name : String
  params : List (String × ProcedureParam)
deriving DecidableEq

namespace ProcedureCall

def of (name : String) : ProcedureCall :=
  ⟨name, []⟩

def input (c : ProcedureCall) (name : String) (value : Value) : ProcedureCall :=
  { c with params := c.params ++ [(name, .input value)] }

def output (c : ProcedureCall) (name : String) (binding : OutBinding) : ProcedureCall :=
  { c with params := c.params ++ [(name, .output binding)] }

end ProcedureCall

end OracleSql
