import OracleSql.Compile
import OracleSql.Procedure.Basic

/-!
# Compilation of calls

A call is a block with named binds.  Names stand in its text as they are, so every segment of a
procedure's name and every parameter's name has to be a plain word.  A function adds one bind of
its own, for its result.
-/

namespace OracleSql

/-- A call with named binds. -/
structure CompiledCall where
  sql : String
  inputs : List (String × Value)
  outputs : List (String × OutBinding)
deriving DecidableEq

/-- An ASCII letter, then ASCII letters, digits and underscores. -/
def isBindName : List Char → Bool
  | [] => false
  | c :: cs => c.isAlpha && cs.all fun d => d.isAlphanum || d == '_'

namespace ProcedureCall

/-- The bind of a function's result. -/
def resultBind : String := "result"

/-- The values passed in, by parameter. -/
def inputs (c : ProcedureCall) : List (String × Value) :=
  c.params.filterMap fun
    | (name, .input value) => some (name, value)
    | _ => none

/-- The binds to receive, by parameter. -/
def outputs (c : ProcedureCall) : List (String × OutBinding) :=
  c.params.filterMap fun
    | (name, .output binding) => some (name, binding)
    | _ => none

/-- The first name that is no plain word: the call's own, or a parameter's. -/
def invalidName? (c : ProcedureCall) : Option String :=
  if (c.name.toList.splitOn '.').all isBindName then
    (c.params.map Prod.fst).find? fun name => !isBindName name.toList
  else some c.name

/-- The call expression with its binds. -/
def invocation (c : ProcedureCall) : String :=
  c.name ++ "(" ++ ", ".intercalate (c.params.map fun p => ":" ++ p.1) ++ ")"

/-- Refuse a call that has a name which is no plain word. -/
def checkNames (c : ProcedureCall) : Compile Unit :=
  match c.invalidName? with
  | some name => throw (.invalidIdentifier name)
  | none => return ()

/-- **The block that calls a procedure.** -/
def compile (c : ProcedureCall) : Compile CompiledCall := do
  c.checkNames
  return ⟨"begin " ++ c.invocation ++ "; end;", c.inputs, c.outputs⟩

/-- **The block that calls a function** and binds its result. -/
def compileFunction (c : ProcedureCall) (returns : OutBinding) : Compile CompiledCall := do
  c.checkNames
  return ⟨"begin :" ++ resultBind ++ " := " ++ c.invocation ++ "; end;", c.inputs,
    (resultBind, returns) :: c.outputs⟩

end ProcedureCall

end OracleSql
