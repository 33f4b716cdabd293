import OracleSql.Identifier.Basic
import OracleSql.Literal
import OracleSql.Schema.Column

/-!
# Column definitions

The type of a column in the database, and the definition of a column as it stands in
`create table`: name, type, default, nullability and the check on its allowed values.
-/

namespace OracleSql

namespace Column

/-- The length of a text column that does not give one. -/
def standardLength : UInt32 := 255

/-- A number in parentheses after a type name, or another one in its place. -/
def sized (name : String) (size : Option UInt32) (standard : UInt32) : String :=
  name ++ "(" ++ toString (size.getD standard).toNat ++ ")"

def integerType (digits : Option UInt32) (standard : UInt32) : String :=
  "number(" ++ toString (digits.getD standard).toNat ++ ",0)"

/-- **The type of a column in the database.** -/
def typeSql (c : Column) : String :=
  match c.type with
  | .char => sized "char" c.length standardLength
  | .string => sized "varchar2" c.length standardLength
  | .nvarchar2 => sized "nvarchar2" c.length standardLength
  | .text | .mediumText | .longText => "clob"
  | .integer => integerType c.length 10
  | .bigInteger => integerType c.length 19
  | .mediumInteger => integerType c.length 7
  | .smallInteger => integerType c.length 5
  | .tinyInteger => integerType c.length 3
  | .float => sized "float" c.precision 126
  | .double => "float(126)"
  | .decimal =>
    "number(" ++ toString (c.precision.getD 8).toNat ++ "," ++ toString (c.places.getD 2).toNat
      ++ ")"
  | .boolean => "char(1)"
  | .enum => sized "varchar2" c.length standardLength
  | .date | .dateTime | .time => "date"
  | .timestamp => "timestamp"
  | .dateTimeTz | .timeTz | .timestampTz => "timestamp with time zone"
  | .binary => "blob"
  | .uuid => "char(36)"
  | .ipAddress => "varchar(45)"
  | .macAddress => "varchar(17)"
  | .json | .jsonb => "clob"

end Column

/-- The text of a default: an expression stands as it is, anything else is a literal. -/
def DefaultValue.sql : DefaultValue → String
  | raw sql => sql
  | bool b => quote (if b then "1" else "0")
  | int n => quote (toString n.toInt)
  | float x => quote (Value.numberText x)
  | text s => quote s

namespace Column

def defaultSql (c : Column) : String :=
  match c.default with
  | some d => " default " ++ d.sql
  | none => ""

/-- The check that the column has one of its allowed values. -/
def checkSql (cfg : Config) (c : Column) : String :=
  if c.allowed.isEmpty then ""
  else " check (" ++ Identifier.wrapValue cfg c.name ++ " in ("
    ++ ", ".intercalate (c.allowed.map quote) ++ "))"

/-- What follows the type of the column. -/
def modifiersSql (cfg : Config) (c : Column) : String :=
  c.defaultSql ++ (if c.nullable then " null" else " not null") ++ c.checkSql cfg

/-- **The definition of the column.** -/
def definitionSql (cfg : Config) (c : Column) : String :=
  Identifier.wrap cfg c.name ++ " " ++ c.typeSql ++ c.modifiersSql cfg

end Column

end OracleSql
