import OracleSql.Json.Fields
import OracleSql.Procedure.Basic
import OracleSql.Value

/-!
# Values and calls in JSON

A value is an alternative named after its kind; dates and timestamps are text, bytes a list of
numbers.  Calls stand in arguments only, and so they are read in strict style.
-/

namespace OracleSql

open Json

namespace Value

def ofJson? (style : Style) (j : Json) : Option Value := do
  let (kind, part) ← j.alternative?
  match kind with
  | "Null" => word style part null
  | "Bool" => content part fun v => return bool (← v.val.bool?)
  | "Int" => content part fun v => return int (← v.val.int64?)
  | "Float" => content part fun v => return float (← v.val.binary64?)
  | "String" => content part fun v => return text (← v.val.text?)
  | "Bytes" => content part fun v => return bytes (← v.val.listOf? byte?)
  | "Date" => content part fun v => return date (← Date.ofText? (← v.val.text?))
  | "Timestamp" => content part fun v => return timestamp (← Timestamp.ofText? (← v.val.text?))
  | "Raw" => content part fun v => return raw (← v.val.text?)
  | _ => none

/-- A list of bytes. -/
def bytesJson (content : List UInt8) : Json :=
  ofList (fun b => Json.int b.toNat) content

def toJson : Value → Json
  | null => .text "Null"
  | bool b => tagged "Bool" (.bool b)
  | int n => tagged "Int" (.int n.toInt)
  | float x => tagged "Float" (.float x)
  | text s => tagged "String" (.text s)
  | bytes content => tagged "Bytes" (bytesJson content)
  | date d => tagged "Date" (.text d.text)
  | timestamp t => tagged "Timestamp" (.text t.text)
  | raw sql => tagged "Raw" (.text sql)

end Value

namespace OutKind

/-- The kinds and their names. -/
def words : List (String × OutKind) :=
  [integer, float, varchar, blob, clob, cursor].map fun k => (k.name, k)

def ofJson? : Json → Option OutKind := wordOf? .strict words

def toJson (k : OutKind) : Json := .text k.name

end OutKind

namespace OutBinding

def fields : List String := ["name", "kind", "max_length"]

/-- Read an output bind.  A list has to give the length as well. -/
def ofJson? (j : Json) : Option OutBinding := do
  let r ← j.record? fields
  guard (j.list?.all fun items => items.length = fields.length)
  return {
    name := ← r.required "name" (leaf text?)
    kind := ← r.required "kind" (leaf OutKind.ofJson?)
    maxLength := ← r.nullable "max_length" (leaf uint64?) }

def toJson (b : OutBinding) : Json :=
  .object [("name", .text b.name), ("kind", b.kind.toJson),
    ("max_length", ofOption ofUInt64 b.maxLength)]

end OutBinding

namespace ProcedureParam

def ofJson? (j : Json) : Option ProcedureParam := do
  let (kind, part) ← j.alternative?
  match kind with
  | "In" => content part fun v => return input (← Value.ofJson? .strict v.val)
  | "Out" => content part fun v => return output (← OutBinding.ofJson? v.val)
  | _ => none

def toJson : ProcedureParam → Json
  | input value => tagged "In" value.toJson
  | output binding => tagged "Out" binding.toJson

end ProcedureParam

namespace ProcedureCall

def fields : List String := ["name", "params"]

def ofJson? (j : Json) : Option ProcedureCall := do
  let r ← j.record? fields
  return {
    name := ← r.required "name" (leaf text?)
    params := ← r.optional "params" [] (leaf (listOf? (pairOf? text? ProcedureParam.ofJson?))) }

def toJson (c : ProcedureCall) : Json :=
  .object [("name", .text c.name),
    ("params", ofList (fun p => ofPair (.text p.1) p.2.toJson) c.params)]

end ProcedureCall

end OracleSql
