import OracleSql.Binary64.Layout
import OracleSql.Calendar

/-!
# Values and binds

A `Value` is what stands on the value side of a condition, an assignment or an inserted row.  All
but one kind are bound: the statement shows a placeholder and the value travels beside it.  A
`raw` value is an SQL expression and stands in the statement itself, so it is never bound.
An `OutBinding` describes a bind that the database fills in.
-/

namespace OracleSql

inductive Value where
  | null
  /-- A truth value, bound as `1` or `0`: there is no boolean column type. -/
  | bool (b : Bool)
  | int (n : Int64)
  | float (x : Binary64)
  | text (s : String)
  /-- The content of a large binary object. -/
  | bytes (content : List UInt8)
  | date (d : Date)
  | timestamp (t : Timestamp)
  /-- An SQL expression such as `sysdate`, written into the statement. -/
  | raw (sql : String)
deriving DecidableEq

namespace Value

/-- Whether the value is written into the statement and not bound. -/
def isRaw : Value → Bool
  | raw _ => true
  | _ => false

def isNull : Value → Bool
  | null => true
  | _ => false

/-- What a statement shows for the value. -/
def placeholder : Value → String
  | raw sql => sql
  | _ => "?"

/-- Numbers in statements and listings: never an exponent, no mark on whole numbers, and a value
halfway between two shortest decimals goes to the larger one. -/
def numberLayout : Binary64.Layout where
  tieUp _ := true
  positional _ := true
  wholeEnd := ""
  infinity := "inf"
  nan := "NaN"

def numberText (x : Binary64) : String :=
  numberLayout.render x

/-- The value as a listing shows it. -/
def display : Value → String
  | null => "NULL"
  | bool b => if b then "1" else "0"
  | int n => toString n.toInt
  | float x => numberText x
  | text s => "'" ++ Text.double '\'' s ++ "'"
  | bytes content => "<" ++ toString content.length ++ " bytes>"
  | date d => "'" ++ d.text ++ "'"
  | timestamp t => "'" ++ t.date.text ++ " " ++ t.clock ++ "'"
  | raw sql => sql

end Value

inductive OutKind where
  | integer | float | varchar | blob | clob | cursor
deriving DecidableEq

def OutKind.name : OutKind → String
  | integer => "Integer"
  | float => "Float"
  | varchar => "Varchar"
  | blob => "Blob"
  | clob => "Clob"
  | cursor => "Cursor"

/-- A bind that receives a result. -/
structure OutBinding where
  /-- The column or parameter whose result it receives. -/
  name : String
  kind : OutKind
  /-- The largest length in bytes; locators and cursors have none. -/
  maxLength : Option UInt64
deriving DecidableEq

namespace OutBinding

/-- A generated numeric key. -/
def key (name : String) : OutBinding :=
  ⟨name, .integer, some 38⟩

/-- The locator of a large binary object. -/
def blobLocator (name : String) : OutBinding :=
  ⟨name, .blob, none⟩

/-- Text of at most `maxLength` bytes. -/
def varchar (name : String) (maxLength : UInt64) : OutBinding :=
  ⟨name, .varchar, some maxLength⟩

end OutBinding

end OracleSql
