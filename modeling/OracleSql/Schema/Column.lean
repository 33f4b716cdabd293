import OracleSql.Value

/-!
# Columns of a table

A `ColumnType` is a type in no dialect; `ColumnType.ofName?` lists the names under which column
lists know it.  A `Column` adds length or precision, default, check and key flags.  Only an
integer column can be numbered automatically (`Column.isSerial`).
-/

namespace OracleSql

/-- Column types in no dialect. -/
inductive ColumnType where
  | char | string | nvarchar2 | text | mediumText | longText
  | integer | bigInteger | mediumInteger | smallInteger | tinyInteger
  | float | double | decimal | boolean | enum
  | date | dateTime | dateTimeTz | time | timeTz | timestamp | timestampTz
  | binary | uuid | ipAddress | macAddress | json | jsonb
deriving DecidableEq

namespace ColumnType

def isInteger : ColumnType → Bool
  | integer | bigInteger | mediumInteger | smallInteger | tinyInteger => true
  | _ => false

/-- The names of the types, in lower case. -/
def names : List (String × ColumnType) := [
  ("char", char), ("string", string), ("varchar", string), ("varchar2", string),
  ("nvarchar2", nvarchar2), ("text", text), ("mediumtext", mediumText), ("longtext", longText),
  ("integer", integer), ("int", integer), ("biginteger", bigInteger), ("bigint", bigInteger),
  ("mediuminteger", mediumInteger), ("smallinteger", smallInteger), ("smallint", smallInteger),
  ("tinyinteger", tinyInteger), ("tinyint", tinyInteger), ("float", float), ("double", double),
  ("decimal", decimal), ("numeric", decimal), ("boolean", boolean), ("bool", boolean),
  ("enum", enum), ("date", date), ("datetime", dateTime), ("datetimetz", dateTimeTz),
  ("time", time), ("timetz", timeTz), ("timestamp", timestamp), ("timestamptz", timestampTz),
  ("binary", binary), ("blob", binary), ("uuid", uuid), ("ipaddress", ipAddress),
  ("macaddress", macAddress), ("json", json), ("jsonb", jsonb)]

/-- The type of a name, in any ASCII case. -/
def ofName? (name : String) : Option ColumnType :=
  names.lookup (Text.asciiLower name)

end ColumnType

inductive DefaultValue where
  /-- An SQL expression such as `sysdate`. -/
  | raw (sql : String)
  | bool (b : Bool)
  | int (n : Int64)
  | float (x : Binary64)
  | text (s : String)
deriving DecidableEq

structure Column where
  name : String
  type : ColumnType
  length : Option UInt32
  /-- The precision of a float, the digits of a decimal. -/
  precision : Option UInt32
  places : Option UInt32
  nullable : Bool
  default : Option DefaultValue
  autoIncrement : Bool
  comment : Option String
  /-- The values a check constraint allows; an empty list allows all. -/
  allowed : List String
  /-- The first number of an automatically numbered column. -/
  startValue : Option UInt64
  nocache : Bool
  /-- Whether an existing column is modified; otherwise the column is new. -/
  change : Bool
  primary : Bool
  unique : Bool
  index : Bool
deriving DecidableEq

namespace Column

/-- A new column that must not be null. -/
def of (name : String) (type : ColumnType) : Column where
  name := name
  type := type
  length := none
  precision := none
  places := none
  nullable := false
  default := none
  autoIncrement := false
  comment := none
  allowed := []
  startValue := none
  nocache := false
  change := false
  primary := false
  unique := false
  index := false

/-- An integer column that is numbered automatically, by a sequence and a trigger. -/
def isSerial (c : Column) : Bool :=
  c.autoIncrement && c.type.isInteger

end Column

end OracleSql
