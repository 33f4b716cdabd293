import OracleSql.Config
import OracleSql.Literal
import OracleSql.Text.Case

/-!
# Session options

The statement that sets up a session: the formats of dates and numbers, then the further options
of the configuration.  A value is a literal, except for the options that name an object.
-/

namespace OracleSql.Config

/-- The options whose value is an identifier. -/
def identifierOptions : List String := ["CURRENT_SCHEMA", "EDITION"]

/-- The options of a session in the order in which they are set. -/
def sessionOptions (c : Config) : List (String × String) :=
  [("NLS_TIME_FORMAT", "HH24:MI:SS"), ("NLS_DATE_FORMAT", c.dateFormat),
    ("NLS_TIMESTAMP_FORMAT", c.timestampFormat), ("NLS_TIMESTAMP_TZ_FORMAT", c.timestampTzFormat),
    ("NLS_NUMERIC_CHARACTERS", ".,")] ++ c.sessionVars.entries

def optionSql (option value : String) : String :=
  let name := Text.upper option
  name ++ " = " ++ (if identifierOptions.contains name then value else quote value)

/-- **The statement that sets up a session.** -/
def sessionSql (c : Config) : String :=
  "ALTER SESSION SET "
    ++ " ".intercalate (c.sessionOptions.map fun (option, value) => optionSql option value)

end OracleSql.Config
