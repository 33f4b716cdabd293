import OracleSql.CommandLine.Arguments
import OracleSql.Descriptor.Value
import OracleSql.Json.Printer
import OracleSql.Statement

/-!
# Listing statements

As SQL, each statement is closed the way a command-line client of the database wants it and
followed by its parameters and outputs in comments; as JSON, the list is one text.
-/

namespace OracleSql.CommandLine

/-- The beginnings of statements that are blocks, in lower case. -/
def blockHeads : List String := ["begin", "declare", "create trigger"]

/-- Whether a statement is a block, which semicolons do not close. -/
def isBlock (sql : String) : Bool :=
  let head := (sql.toList.dropWhile Text.isBlank).map Char.toLower
  blockHeads.any fun word => word.toList.isPrefixOf head

/-- What closes a statement: a slash on a line of its own, or a semicolon. -/
def terminator (sql : String) : String :=
  if isBlock sql then "\n/" else ";"

/-- The text of a statement, with or without positional binds. -/
def shownSql (numbered : Bool) (s : Statement) : String :=
  if numbered then s.numberedSql else s.sql

/-- The lines of parameters, numbered from `n + 1`. -/
def bindLines (n : Nat) : List Value → List String
  | [] => []
  | v :: rest => ("  -- bind " ++ toString (n + 1) ++ ": " ++ v.display) :: bindLines (n + 1) rest

def statementLines (numbered : Bool) (s : Statement) : List String :=
  let sql := shownSql numbered s
  (sql ++ terminator sql) :: bindLines 0 s.params
    ++ s.outputs.map fun b => "  -- out: " ++ b.name ++ " " ++ b.kind.name

def statementJson (numbered : Bool) (s : Statement) : Json :=
  .object [("outputs", Json.ofList OutBinding.toJson s.outputs),
    ("params", Json.ofList Value.toJson s.params), ("sql", .text (shownSql numbered s))]

/-- Lines, each with its end. -/
def unlines (lines : List String) : String :=
  String.join (lines.map fun line => line ++ "\n")

/-- **The listing of statements.** -/
def listing (format : Format) (numbered : Bool) (statements : List Statement) : String :=
  match format with
  | .sql => unlines (statements.flatMap (statementLines numbered))
  | .json =>
    unlines [(Json.list (statements.map (statementJson numbered))).canonical.pretty 0]

end OracleSql.CommandLine
