import OracleSql.Descriptor.Value
import OracleSql.Session.Connection

/-!
# Values of output binds in JSON

The value of an output bind is a word or has its content under a name; rows stand as they are.
-/

namespace OracleSql

open Json

def Row.ofJson? : Json → Option Row := object?

namespace Locator

def ofJson? (j : Json) : Option Locator := do
  return {
    column := ← j.get? "column" >>= text?
    handle := ← j.get? "handle" >>= uint64? }

def toJson (l : Locator) : Json :=
  .object [("column", .text l.column), ("handle", ofUInt64 l.handle)]

end Locator

namespace OutValue

def ofJson? (j : Json) : Option OutValue := do
  let (name, part) ← j.alternative?
  match name with
  | "Null" => word .strict part null
  | "Int" => content part fun v => return int (← v.val.int64?)
  | "Float" => content part fun v => return float (← v.val.binary64?)
  | "Text" => content part fun v => return text (← v.val.text?)
  | "Locator" => content part fun v => return locator (← Locator.ofJson? v.val)
  | "Rows" => content part fun v => return rows (← v.val.listOf? Row.ofJson?)
  | _ => none

def toJson : OutValue → Json
  | null => .text "Null"
  | int n => tagged "Int" (.int n.toInt)
  | float x => tagged "Float" (.float x)
  | text s => tagged "Text" (.text s)
  | locator l => tagged "Locator" l.toJson
  | rows rs => tagged "Rows" (ofList Json.object rs)

end OutValue

end OracleSql
