import OracleSql.Descriptor.Value
import OracleSql.Schema.Blueprint

/-!
# Blueprints in JSON

Columns, commands and whole blueprints, and the sequences and triggers that number a column.  Of
a column the name and the type have to be given, of a blueprint the name.
-/

namespace OracleSql

open Json

namespace ColumnType

/-- The types and the words that stand for them in descriptions. -/
def words : List (String × ColumnType) := [
  ("char", char), ("string", string), ("nvarchar2", nvarchar2), ("text", text),
  ("medium_text", mediumText), ("long_text", longText), ("integer", integer),
  ("big_integer", bigInteger), ("medium_integer", mediumInteger),
  ("small_integer", smallInteger), ("tiny_integer", tinyInteger), ("float", float),
  ("double", double), ("decimal", decimal), ("boolean", boolean), ("enum", enum),
  ("date", date), ("date_time", dateTime), ("date_time_tz", dateTimeTz), ("time", time),
  ("time_tz", timeTz), ("timestamp", timestamp), ("timestamp_tz", timestampTz),
  ("binary", binary), ("uuid", uuid), ("ip_address", ipAddress), ("mac_address", macAddress),
  ("json", json), ("jsonb", jsonb)]

def word (t : ColumnType) : String :=
  ((words.find? fun p => p.2 = t).map Prod.fst).getD ""

def ofJson? (style : Style) : Json → Option ColumnType := wordOf? style words

def toJson (t : ColumnType) : Json := .text t.word

end ColumnType

namespace DefaultValue

def ofJson? (j : Json) : Option DefaultValue := do
  let (kind, part) ← j.alternative?
  match kind with
  | "Raw" => content part fun v => return raw (← v.val.text?)
  | "Bool" => content part fun v => return bool (← v.val.bool?)
  | "Int" => content part fun v => return int (← v.val.int64?)
  | "Float" => content part fun v => return float (← v.val.binary64?)
  | "String" => content part fun v => return text (← v.val.text?)
  | _ => none

def toJson : DefaultValue → Json
  | raw sql => tagged "Raw" (.text sql)
  | bool b => tagged "Bool" (.bool b)
  | int n => tagged "Int" (.int n.toInt)
  | float x => tagged "Float" (.float x)
  | text s => tagged "String" (.text s)

end DefaultValue

namespace Column

def fields : List String := [
  "name", "column_type", "length", "precision", "places", "nullable", "default",
  "auto_increment", "comment", "allowed", "start_value", "nocache", "change", "primary",
  "unique", "index"]

def ofJson? (style : Style) (j : Json) : Option Column := do
  let r ← j.record? fields
  return {
    name := ← r.required "name" (leaf text?)
    type := ← r.required "column_type" (leaf (ColumnType.ofJson? style))
    length := ← r.nullable "length" (leaf uint32?)
    precision := ← r.nullable "precision" (leaf uint32?)
    places := ← r.nullable "places" (leaf uint32?)
    nullable := ← r.optional "nullable" false (leaf bool?)
    default := ← r.nullable "default" (leaf DefaultValue.ofJson?)
    autoIncrement := ← r.optional "auto_increment" false (leaf bool?)
    comment := ← r.nullable "comment" (leaf text?)
    allowed := ← r.optional "allowed" [] (leaf (listOf? text?))
    startValue := ← r.nullable "start_value" (leaf uint64?)
    nocache := ← r.optional "nocache" false (leaf bool?)
    change := ← r.optional "change" false (leaf bool?)
    primary := ← r.optional "primary" false (leaf bool?)
    unique := ← r.optional "unique" false (leaf bool?)
    index := ← r.optional "index" false (leaf bool?) }

def toJson (c : Column) : Json :=
  .object [("name", .text c.name), ("column_type", c.type.toJson),
    ("length", ofOption ofUInt32 c.length), ("precision", ofOption ofUInt32 c.precision),
    ("places", ofOption ofUInt32 c.places), ("nullable", .bool c.nullable),
    ("default", ofOption DefaultValue.toJson c.default),
    ("auto_increment", .bool c.autoIncrement), ("comment", ofOption .text c.comment),
    ("allowed", ofList .text c.allowed), ("start_value", ofOption ofUInt64 c.startValue),
    ("nocache", .bool c.nocache), ("change", .bool c.change), ("primary", .bool c.primary),
    ("unique", .bool c.unique), ("index", .bool c.index)]

end Column

namespace IndexKind

def words : List (String × IndexKind) :=
  [("primary", primary), ("unique", unique), ("index", index), ("foreign", foreign),
    ("fulltext", fulltext)]

def ofJson? : Json → Option IndexKind := wordOf? .strict words

end IndexKind

namespace IndexSpec

def fields : List String := ["index", "columns"]

def ofJson? (j : Json) : Option IndexSpec := do
  let r ← j.record? fields
  return {
    name := ← r.nullable "index" (leaf text?)
    columns := ← r.optional "columns" [] (leaf (listOf? text?)) }

def toJson (s : IndexSpec) : Json :=
  .object [("index", ofOption .text s.name), ("columns", ofList .text s.columns)]

end IndexSpec

namespace ForeignKey

def fields : List String := ["index", "columns", "on", "references", "on_delete"]

def ofJson? (j : Json) : Option ForeignKey := do
  let r ← j.record? fields
  return {
    name := ← r.nullable "index" (leaf text?)
    columns := ← r.required "columns" (leaf (listOf? text?))
    on := ← r.required "on" (leaf text?)
    references := ← r.required "references" (leaf (listOf? text?))
    onDelete := ← r.nullable "on_delete" (leaf text?) }

def toJson (f : ForeignKey) : Json :=
  .object [("index", ofOption .text f.name), ("columns", ofList .text f.columns),
    ("on", .text f.on), ("references", ofList .text f.references),
    ("on_delete", ofOption .text f.onDelete)]

end ForeignKey

namespace SchemaCommand

def renameOfJson? (style : Style) (j : Json) : Option SchemaCommand := do
  let r ← j.contentRecord? style ["to"]
  return rename (← r.required "to" (leaf text?))

def renameColumnOfJson? (style : Style) (j : Json) : Option SchemaCommand := do
  let r ← j.contentRecord? style ["from", "to"]
  return renameColumn (← r.required "from" (leaf text?)) (← r.required "to" (leaf text?))

def ofJson? (style : Style) (j : Json) : Option SchemaCommand := do
  let (kind, part) ← j.alternative?
  let spec (make : IndexSpec → SchemaCommand) : Option SchemaCommand :=
    content part fun v => (IndexSpec.ofJson? v.val).map make
  match kind with
  | "Create" => word style part create
  | "Add" => word style part add
  | "Change" => word style part change
  | "Drop" => word style part drop
  | "DropIfExists" => word style part dropIfExists
  | "DropColumn" => content part fun v => (v.val.listOf? text?).map dropColumns
  | "Rename" => content part (leaf (renameOfJson? style))
  | "RenameColumn" => content part (leaf (renameColumnOfJson? style))
  | "Primary" => spec primary
  | "Unique" => spec unique
  | "Index" => spec index
  | "Fulltext" => spec fulltext
  | "Foreign" => content part fun v => (ForeignKey.ofJson? v.val).map foreign
  | "DropPrimary" => spec dropPrimary
  | "DropUnique" => spec dropUnique
  | "DropIndex" => spec dropIndex
  | "DropForeign" => spec dropForeign
  | "DropFullText" => spec dropFulltext
  | _ => none

def toJson : SchemaCommand → Json
  | create => .text "Create"
  | add => .text "Add"
  | change => .text "Change"
  | drop => .text "Drop"
  | dropIfExists => .text "DropIfExists"
  | dropColumns columns => tagged "DropColumn" (ofList .text columns)
  | rename name => tagged "Rename" (.object [("to", .text name)])
  | renameColumn old new =>
    tagged "RenameColumn" (.object [("from", .text old), ("to", .text new)])
  | primary spec => tagged "Primary" spec.toJson
  | unique spec => tagged "Unique" spec.toJson
  | index spec => tagged "Index" spec.toJson
  | fulltext spec => tagged "Fulltext" spec.toJson
  | foreign key => tagged "Foreign" key.toJson
  | dropPrimary spec => tagged "DropPrimary" spec.toJson
  | dropUnique spec => tagged "DropUnique" spec.toJson
  | dropIndex spec => tagged "DropIndex" spec.toJson
  | dropForeign spec => tagged "DropForeign" spec.toJson
  | dropFulltext spec => tagged "DropFullText" spec.toJson

end SchemaCommand

namespace Blueprint

def fields : List String := ["name", "columns", "commands", "comment", "column_comments"]

def ofJson? (style : Style) (j : Json) : Option Blueprint := do
  let r ← j.record? fields
  return {
    name := ← r.required "name" (leaf text?)
    columns := ← r.optional "columns" [] (leaf (listOf? (Column.ofJson? style)))
    commands := ← r.optional "commands" [] (leaf (listOf? (SchemaCommand.ofJson? style)))
    comment := ← r.nullable "comment" (leaf text?)
    columnComments := ← r.optional "column_comments" [] (leaf (listOf? (pairOf? text? text?))) }

def toJson (b : Blueprint) : Json :=
  .object [("name", .text b.name), ("columns", ofList Column.toJson b.columns),
    ("commands", ofList SchemaCommand.toJson b.commands), ("comment", ofOption .text b.comment),
    ("column_comments", ofList (fun p => ofPair (.text p.1) (.text p.2)) b.columnComments)]

end Blueprint

namespace SequenceSpec

def fields : List String :=
  ["name", "start_value", "min_value", "max_value", "increment_by", "nocache"]

def ofJson? (j : Json) : Option SequenceSpec := do
  let r ← j.record? fields
  return {
    name := ← r.required "name" (leaf text?)
    startValue := ← r.required "start_value" (leaf uint64?)
    minValue := ← r.required "min_value" (leaf uint64?)
    maxValue := ← r.nullable "max_value" (leaf uint64?)
    incrementBy := ← r.required "increment_by" (leaf uint64?)
    nocache := ← r.optional "nocache" false (leaf bool?) }

def toJson (s : SequenceSpec) : Json :=
  .object [("name", .text s.name), ("start_value", ofUInt64 s.startValue),
    ("min_value", ofUInt64 s.minValue), ("max_value", ofOption ofUInt64 s.maxValue),
    ("increment_by", ofUInt64 s.incrementBy), ("nocache", .bool s.nocache)]

end SequenceSpec

namespace TriggerSpec

def fields : List String := ["name", "table", "column", "sequence_name"]

def ofJson? (j : Json) : Option TriggerSpec := do
  let r ← j.record? fields
  return {
    name := ← r.required "name" (leaf text?)
    table := ← r.required "table" (leaf text?)
    column := ← r.required "column" (leaf text?)
    sequenceName := ← r.required "sequence_name" (leaf text?) }

def toJson (t : TriggerSpec) : Json :=
  .object [("name", .text t.name), ("table", .text t.table), ("column", .text t.column),
    ("sequence_name", .text t.sequenceName)]

end TriggerSpec

def Preference.toJson (p : Preference) : Json :=
  .object [("name", .text p.name), ("columns", ofList .text p.columns)]

end OracleSql
