import OracleSql.Config

/-!
# Errors

The causes for which a description is refused (`CompileError`), a column list cannot be read
(`ParseError`) or a step of a session fails (`Error`).  A cause is a value; its wording is in
`message`, in one place.
-/

namespace OracleSql

/-- Why a description has no statement. -/
inductive CompileError where
  | emptyInsert
  /-- A row of a batch does not have the columns of the first row. -/
  | columnMismatch (row : Nat) (expected found : List String)
  /-- Columns are to be modified and none is marked. -/
  | missingChangeColumn (table : String)
  | invalidOperator (operator : String)
  | invalidIdentifier (name : String)
  | insertWithoutColumns (table : String)
  | updateWithoutAssignments (table : String)
  | createWithoutColumns (table : String)
  /-- A generated key is returned for one row only. -/
  | keyOfSeveralRows
  /-- Large objects are written for one row only. -/
  | blobsOfSeveralRows
deriving DecidableEq

def CompileError.message : CompileError → String
  | emptyInsert => "Insert requires at least one row"
  | columnMismatch row expected found =>
    "Column mismatch in row " ++ toString row ++ ": expected [" ++ ", ".intercalate expected
      ++ "], found [" ++ ", ".intercalate found ++ "]"
  | missingChangeColumn table => "Change command on '" ++ table ++ "' has no column to modify"
  | invalidOperator operator => "Invalid operator: '" ++ operator ++ "'"
  | invalidIdentifier name => "Invalid identifier: '" ++ name ++ "'"
  | insertWithoutColumns table =>
    "Compilation error: insert into '" ++ table ++ "' has no columns"
  | updateWithoutAssignments table =>
    "Compilation error: update of '" ++ table ++ "' has no assignments"
  | createWithoutColumns table => "Compilation error: create table " ++ table ++ " has no columns"
  | keyOfSeveralRows => "Compilation error: returning a generated key requires a single row"
  | blobsOfSeveralRows => "Compilation error: LOB inserts take a single row"

/-- What is wrong with a column list. -/
inductive ParseFault where
  | emptyList
  /-- No column can be read; the text that is left. -/
  | invalidColumn (rest : String)
  /-- The list ends before the text does; the text that is left. -/
  | trailing (rest : String)
  /-- One column was wanted. -/
  | severalColumns (count : Nat)
deriving DecidableEq

/-- Why a column list cannot be read, and where: the number of bytes before the fault, not counting
the white space that the list starts with. -/
structure ParseError where
  position : Nat
  fault : ParseFault
deriving DecidableEq

def ParseFault.message : ParseFault → String
  | emptyList => "Empty column list"
  | invalidColumn rest => "Invalid column spec near '" ++ rest ++ "'"
  | trailing rest => "Unexpected trailing content: '" ++ rest ++ "'"
  | severalColumns count => "Expected one column, found " ++ toString count

def ParseError.message (e : ParseError) : String :=
  "Parse error at position " ++ toString e.position ++ ": " ++ e.fault.message

/-- The wording of a configuration error; where the text itself is malformed, what is wrong with
it is not said. -/
def ConfigError.message : ConfigError → String
  | unsupportedLength length =>
    "Configuration error: max_identifier_length must be 30 or 128, got " ++ toString length.toNat
  | blankSchema => "Configuration error: schema_prefix cannot be blank"
  | malformed => "Configuration error"

inductive Error where
  | compile (e : CompileError)
  | parse (e : ParseError)
  | config (e : ConfigError)
  | database (text : String)
  /-- A statement cannot be carried out. -/
  | execution (text : String)
  | lobWrite (column text : String)
deriving DecidableEq

namespace Error

def message : Error → String
  | compile e => e.message
  | parse e => e.message
  | config e => e.message
  | database text => "Database error: " ++ text
  | execution text => "Execution error: " ++ text
  | lobWrite column text => "LOB write failed for column '" ++ column ++ "': " ++ text

/-- Whether the error arises before any statement reaches the database. -/
def isCompile : Error → Bool
  | compile _ => true
  | _ => false

end Error

end OracleSql
