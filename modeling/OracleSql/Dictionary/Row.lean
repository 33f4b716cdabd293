import OracleSql.Json.Printer
import OracleSql.Text.Blank
import OracleSql.Text.Case

/-!
# Rows of the data dictionary

A row holds JSON values by column name, and the names come in whatever case the fetching side
reports them: a field is found by its exact name, and else ignoring ASCII case.  A field can be
looked at as a text, as an unsigned number or as a flag; each view says which values it takes.
-/

namespace OracleSql

/-- A fetched row. -/
abbrev Row := Members

namespace Row

def field? (row : Row) (key : String) : Option Json :=
  match row.lookup key with
  | some v => some v
  | none => (row.find? fun p => Text.sameIgnoringCase p.1 key).map Prod.snd

/-- A field as text; null has none, and what is no string is written as JSON. -/
def text? (row : Row) (key : String) : Option String :=
  match row.field? key with
  | none | some .null => none
  | some (.text s) => some s
  | some j => some j.compact

/-- The unsigned number that a text writes, with white space around it. -/
def uint64OfText? (s : String) : Option UInt64 := do
  let cs := (Text.trim s).toList
  let n ← Text.natOfDigits? (match cs with
    | '+' :: rest => rest
    | _ => cs)
  if n < Nat.pow 2 64 then some (UInt64.ofNat n) else none

/-- The unsigned number that an integer is. -/
def uint64OfInt? (n : Int) : Option UInt64 :=
  if 0 ≤ n ∧ n < Int.pow 2 64 then some (UInt64.ofNat n.toNat) else none

/-- A field as an unsigned number: an integer, a text that writes one, or any other number that
is not negative, without its fraction and at most the largest one. -/
def number? (row : Row) (key : String) : Option UInt64 :=
  match row.field? key with
  | some (.int n) => uint64OfInt? n
  | some (.float x) =>
    if x.isNegative ∧ !x.isZero then none
    else some (UInt64.ofNat (x.clampToInt 0 (Int.pow 2 64 - 1)).toNat)
  | some (.text s) => uint64OfText? s
  | _ => none

/-- A field as a flag: a truth value, a number other than zero, or one of the texts `Y`, `YES` and
`1` in any case and with white space around. -/
def flag (row : Row) (key : String) : Bool :=
  match row.field? key with
  | some (.bool b) => b
  | some (.int n) => n != 0
  | some (.float x) => !x.isZero
  | some (.text s) => ["Y", "YES", "1"].contains (Text.upper (Text.trim s))
  | _ => false

/-- A field as text in lower case; nothing is the empty text. -/
def lowerText (row : Row) (key : String) : String :=
  Text.lower ((row.text? key).getD "")

/-- A field that lists names between commas, in lower case and without empty ones. -/
def names (row : Row) (key : String) : List String :=
  match row.text? key with
  | none => []
  | some s =>
    ((s.toList.splitOn ',').map fun cs => Text.lower (Text.trim (String.ofList cs))).filter
      fun name => !name.isEmpty

end Row

end OracleSql
