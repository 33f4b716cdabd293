import OracleSql.Descriptor.Value
import OracleSql.Query.Basic

/-!
# Queries in JSON

Conditions, joins and queries contain one another, and so do their readers and writers.  Of a
query only the table has to be given.  The style in which a description is written is that of all
its parts.
-/

namespace OracleSql

open Json

def Connector.words : List (String × Connector) := [("and", .and), ("or", .or)]

def DatePart.words : List (String × DatePart) :=
  [("date", .date), ("time", .time), ("day", .day), ("month", .month), ("year", .year)]

def JoinKind.words : List (String × JoinKind) :=
  [("inner", .inner), ("left", .left), ("right", .right), ("cross", .cross)]

def Direction.words : List (String × Direction) := [("asc", .asc), ("desc", .desc)]

def DatePart.word : DatePart → String
  | date => "date"
  | time => "time"
  | day => "day"
  | month => "month"
  | year => "year"

namespace SelectItem

def ofJson? (j : Json) : Option SelectItem := do
  let (kind, part) ← j.alternative?
  match kind with
  | "Column" => content part fun v => return column (← v.val.text?)
  | "Raw" => content part fun v => return raw (← v.val.text?)
  | _ => none

def toJson : SelectItem → Json
  | column name => tagged "Column" (.text name)
  | raw sql => tagged "Raw" (.text sql)

end SelectItem

namespace SortItem

def columnFields : List String := ["column", "direction"]

def columnOfJson? (style : Style) (j : Json) : Option SortItem := do
  let r ← j.contentRecord? style columnFields
  return column (← r.required "column" (leaf text?))
    (← r.optional "direction" .asc (leaf (wordOf? style Direction.words)))

def ofJson? (style : Style) (j : Json) : Option SortItem := do
  let (kind, part) ← j.alternative?
  match kind with
  | "Column" => content part (leaf (columnOfJson? style))
  | "Raw" => content part fun v => return raw (← v.val.text?)
  | _ => none

def toJson : SortItem → Json
  | column name direction =>
    tagged "Column" (.object [("column", .text name), ("direction", .text direction.keyword)])
  | raw sql => tagged "Raw" (.text sql)

end SortItem

namespace Lock

def ofJson? (style : Style) (j : Json) : Option Lock := do
  let (kind, part) ← j.alternative?
  match kind with
  | "Update" => word style part update
  | "Shared" => word style part shared
  | "Raw" => content part fun v => return raw (← v.val.text?)
  | _ => none

def toJson : Lock → Json
  | update => .text "Update"
  | shared => .text "Shared"
  | raw sql => tagged "Raw" (.text sql)

end Lock

namespace Aggregate

def fields : List String := ["function", "columns"]

def ofJson? (j : Json) : Option Aggregate := do
  let r ← j.record? fields
  return {
    function := ← r.required "function" (leaf text?)
    columns := ← r.optional "columns" [] (leaf (listOf? text?)) }

def toJson (a : Aggregate) : Json :=
  .object [("function", .text a.function), ("columns", ofList .text a.columns)]

end Aggregate

/-! ### Conditions without parts of their own kind -/

namespace Condition

def compareOfJson? (style : Style) (j : Json) : Option Condition := do
  let r ← j.contentRecord? style ["column", "operator", "value"]
  return compare (← r.required "column" (leaf text?)) (← r.required "operator" (leaf text?))
    (← r.required "value" (leaf (Value.ofJson? style)))

def oneOfOfJson? (style : Style) (j : Json) : Option Condition := do
  let r ← j.contentRecord? style ["column", "values", "negated"]
  return oneOf (← r.required "column" (leaf text?))
    (← r.required "values" (leaf (listOf? (Value.ofJson? style))))
    (← r.optional "negated" false (leaf bool?))

def isNullOfJson? (style : Style) (j : Json) : Option Condition := do
  let r ← j.contentRecord? style ["column", "negated"]
  return isNull (← r.required "column" (leaf text?)) (← r.optional "negated" false (leaf bool?))

def betweenOfJson? (style : Style) (j : Json) : Option Condition := do
  let r ← j.contentRecord? style ["column", "low", "high", "negated"]
  return between (← r.required "column" (leaf text?))
    (← r.required "low" (leaf (Value.ofJson? style)))
    (← r.required "high" (leaf (Value.ofJson? style)))
    (← r.optional "negated" false (leaf bool?))

def columnsOfJson? (style : Style) (j : Json) : Option Condition := do
  let r ← j.contentRecord? style ["first", "operator", "second"]
  return columns (← r.required "first" (leaf text?)) (← r.required "operator" (leaf text?))
    (← r.required "second" (leaf text?))

def datePartOfJson? (style : Style) (j : Json) : Option Condition := do
  let r ← j.contentRecord? style ["part", "column", "operator", "value"]
  return datePart (← r.required "part" (leaf (wordOf? style DatePart.words)))
    (← r.required "column" (leaf text?)) (← r.required "operator" (leaf text?))
    (← r.required "value" (leaf (Value.ofJson? style)))

def rawOfJson? (style : Style) (j : Json) : Option Condition := do
  let r ← j.contentRecord? style ["sql", "bindings"]
  return raw (← r.required "sql" (leaf text?))
    (← r.optional "bindings" [] (leaf (listOf? (Value.ofJson? style))))

end Condition

def Predicate.fields : List String := ["boolean", "kind"]

def Join.fields : List String := ["kind", "table", "on"]

def Query.fields : List String := [
  "table", "columns", "distinct", "aggregate", "joins", "wheres", "group_by", "havings",
  "order_by", "limit", "offset", "lock"]

/-! ### Readers -/

mutual

def Predicate.ofJson? (style : Style) (j : Json) : Option Predicate := do
  let r ← j.record? Predicate.fields
  let connector ← r.optional "boolean" .and (leaf (wordOf? style Connector.words))
  let condition ← r.required "kind" fun v => Condition.ofJson? style v.val
  return ⟨connector, condition⟩
termination_by sizeOf j
decreasing_by exact v.property

def Condition.ofJson? (style : Style) (j : Json) : Option Condition := do
  let (kind, part) ← j.alternative?
  match kind with
  | "Basic" => content part (leaf (Condition.compareOfJson? style))
  | "In" => content part (leaf (Condition.oneOfOfJson? style))
  | "Null" => content part (leaf (Condition.isNullOfJson? style))
  | "Between" => content part (leaf (Condition.betweenOfJson? style))
  | "Column" => content part (leaf (Condition.columnsOfJson? style))
  | "Nested" => content part fun v =>
    return .group (← v.val.items fun p => Predicate.ofJson? style p.val)
  | "Exists" => content part fun v => do
    let r ← v.val.contentRecord? style ["query", "negated"]
    let query ← r.required "query" fun q => Query.ofJson? style q.val
    let negated ← r.optional "negated" false (leaf bool?)
    return .subquery query negated
  | "Date" => content part (leaf (Condition.datePartOfJson? style))
  | "Raw" => content part (leaf (Condition.rawOfJson? style))
  | _ => none
termination_by sizeOf j
decreasing_by
  · exact Nat.lt_trans p.property v.property
  · exact Nat.lt_trans q.property v.property

def Join.ofJson? (style : Style) (j : Json) : Option Join := do
  let r ← j.record? Join.fields
  let kind ← r.required "kind" (leaf (wordOf? style JoinKind.words))
  let table ← r.required "table" (leaf text?)
  let on ← r.optional "on" [] fun v => v.val.items fun p => Predicate.ofJson? style p.val
  return ⟨kind, table, on⟩
termination_by sizeOf j
decreasing_by exact Nat.lt_trans p.property v.property

/-- **Read a query.** -/
def Query.ofJson? (style : Style) (j : Json) : Option Query := do
  let r ← j.record? Query.fields
  return {
    table := ← r.required "table" (leaf text?)
    columns := ← r.optional "columns" [] (leaf (listOf? SelectItem.ofJson?))
    distinct := ← r.optional "distinct" false (leaf bool?)
    aggregate := ← r.nullable "aggregate" (leaf Aggregate.ofJson?)
    joins := ← r.optional "joins" [] fun v => v.val.items fun p => Join.ofJson? style p.val
    wheres := ← r.optional "wheres" [] fun v => v.val.items fun p => Predicate.ofJson? style p.val
    groupBy := ← r.optional "group_by" [] (leaf (listOf? text?))
    havings := ← r.optional "havings" [] fun v => v.val.items fun p => Predicate.ofJson? style p.val
    orderBy := ← r.optional "order_by" [] (leaf (listOf? (SortItem.ofJson? style)))
    limit := ← r.nullable "limit" (leaf uint64?)
    offset := ← r.nullable "offset" (leaf uint64?)
    lock := ← r.nullable "lock" (leaf (Lock.ofJson? style)) }
termination_by sizeOf j
decreasing_by all_goals exact Nat.lt_trans p.property v.property

end

/-! ### Writers -/

mutual

def Predicate.toJson : Predicate → Json
  | ⟨connector, condition⟩ =>
    .object [("boolean", .text connector.keyword), ("kind", condition.toJson)]

def Condition.toJson : Condition → Json
  | .compare column operator value =>
    tagged "Basic" (.object
      [("column", .text column), ("operator", .text operator), ("value", value.toJson)])
  | .oneOf column values negated =>
    tagged "In" (.object
      [("column", .text column), ("values", ofList Value.toJson values),
        ("negated", .bool negated)])
  | .isNull column negated =>
    tagged "Null" (.object [("column", .text column), ("negated", .bool negated)])
  | .between column low high negated =>
    tagged "Between" (.object
      [("column", .text column), ("low", low.toJson), ("high", high.toJson),
        ("negated", .bool negated)])
  | .columns first operator second =>
    tagged "Column" (.object
      [("first", .text first), ("operator", .text operator), ("second", .text second)])
  | .group members => tagged "Nested" (.list (predicatesToJson members))
  | .subquery query negated =>
    tagged "Exists" (.object [("query", query.toJson), ("negated", .bool negated)])
  | .datePart part column operator value =>
    tagged "Date" (.object
      [("part", .text part.word), ("column", .text column), ("operator", .text operator),
        ("value", value.toJson)])
  | .raw sql bindings =>
    tagged "Raw" (.object [("sql", .text sql), ("bindings", ofList Value.toJson bindings)])

def predicatesToJson : List Predicate → List Json
  | [] => []
  | p :: rest => p.toJson :: predicatesToJson rest

def joinsToJson : List Join → List Json
  | [] => []
  | ⟨kind, table, on⟩ :: rest =>
    .object [("kind", .text kind.keyword), ("table", .text table),
      ("on", .list (predicatesToJson on))] :: joinsToJson rest

/-- **Write a query**, with every field. -/
def Query.toJson : Query → Json
  | ⟨table, columns, distinct, aggregate, joins, wheres, groupBy, havings, orderBy, limit, offset,
      lock⟩ =>
    .object [("table", .text table), ("columns", ofList SelectItem.toJson columns),
      ("distinct", .bool distinct), ("aggregate", ofOption Aggregate.toJson aggregate),
      ("joins", .list (joinsToJson joins)), ("wheres", .list (predicatesToJson wheres)),
      ("group_by", ofList .text groupBy), ("havings", .list (predicatesToJson havings)),
      ("order_by", ofList SortItem.toJson orderBy), ("limit", ofOption ofUInt64 limit),
      ("offset", ofOption ofUInt64 offset), ("lock", ofOption Lock.toJson lock)]

end

end OracleSql
