import OracleSql.Descriptor.Query
import OracleSql.Write.Basic

/-!
# Inserts, updates and deletes in JSON

Rows and assignments are lists of pairs, and so are large binary columns with their bytes.
-/

namespace OracleSql

open Json

def rowOfJson? (style : Style) : Json → Option RowValues :=
  listOf? (pairOf? text? (Value.ofJson? style))

def rowToJson (row : RowValues) : Json :=
  ofList (fun p => ofPair (.text p.1) p.2.toJson) row

def binaryOfJson? : Json → Option BinaryColumns :=
  listOf? (pairOf? text? (listOf? byte?))

def binaryToJson (columns : BinaryColumns) : Json :=
  ofList (fun p => ofPair (.text p.1) (Value.bytesJson p.2)) columns

namespace Insert

def fields : List String :=
  ["table", "rows", "binary_columns", "sequence_column", "uses_sequence", "sequence_name"]

def ofJson? (style : Style) (j : Json) : Option Insert := do
  let r ← j.record? fields
  return {
    table := ← r.required "table" (leaf text?)
    rows := ← r.required "rows" (leaf (listOf? (rowOfJson? style)))
    binaryColumns := ← r.optional "binary_columns" [] (leaf binaryOfJson?)
    keyColumn? := ← r.nullable "sequence_column" (leaf text?)
    usesSequence := ← r.optional "uses_sequence" false (leaf bool?)
    sequenceName := ← r.nullable "sequence_name" (leaf text?) }

def toJson (i : Insert) : Json :=
  .object [("table", .text i.table), ("rows", ofList rowToJson i.rows),
    ("binary_columns", binaryToJson i.binaryColumns),
    ("sequence_column", ofOption .text i.keyColumn?), ("uses_sequence", .bool i.usesSequence),
    ("sequence_name", ofOption .text i.sequenceName)]

end Insert

namespace Update

def fields : List String :=
  ["table", "assignments", "joins", "wheres", "binary_columns", "sequence_column"]

def ofJson? (style : Style) (j : Json) : Option Update := do
  let r ← j.record? fields
  return {
    table := ← r.required "table" (leaf text?)
    assignments := ← r.required "assignments" (leaf (rowOfJson? style))
    joins := ← r.optional "joins" [] (leaf (listOf? (Join.ofJson? style)))
    wheres := ← r.optional "wheres" [] (leaf (listOf? (Predicate.ofJson? style)))
    binaryColumns := ← r.optional "binary_columns" [] (leaf binaryOfJson?)
    keyColumn? := ← r.nullable "sequence_column" (leaf text?) }

def toJson (u : Update) : Json :=
  .object [("table", .text u.table), ("assignments", rowToJson u.assignments),
    ("joins", .list (joinsToJson u.joins)), ("wheres", .list (predicatesToJson u.wheres)),
    ("binary_columns", binaryToJson u.binaryColumns),
    ("sequence_column", ofOption .text u.keyColumn?)]

end Update

namespace Delete

def fields : List String := ["table", "wheres"]

def ofJson? (style : Style) (j : Json) : Option Delete := do
  let r ← j.record? fields
  return {
    table := ← r.required "table" (leaf text?)
    wheres := ← r.optional "wheres" [] (leaf (listOf? (Predicate.ofJson? style))) }

def toJson (d : Delete) : Json :=
  .object [("table", .text d.table), ("wheres", .list (predicatesToJson d.wheres))]

end Delete

end OracleSql
