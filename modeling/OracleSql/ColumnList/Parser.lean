import OracleSql.ColumnList.Modifier
import OracleSql.Error
import OracleSql.Text.Alphanumeric

/-!
# Column lists

A column list such as `id:increments, email:string(100):unique` names columns with their types,
arguments and modifiers.  `parseColumns` reads one; where it cannot, the error says where: at the
first part of the first column that cannot be read, or at what is left after the last column.
-/

namespace OracleSql.ColumnList

/-- The characters of names. -/
def isNameChar (c : Char) : Bool :=
  Text.isAlphanumeric c || c == '_'

def name? (cs : List Char) : Option (String × List Char) :=
  (run? isNameChar cs).map fun (run, rest) => (String.ofList run, rest)

/-- The types that are numbered automatically, and the integer types behind them. -/
def serialTypes : List (String × ColumnType) := [
  ("increments", .integer), ("bigincrements", .bigInteger), ("mediumincrements", .mediumInteger),
  ("smallincrements", .smallInteger), ("tinyincrements", .tinyInteger)]

/-- The type of a name, and whether it is numbered automatically. -/
def typeOfName? (name : String) : Option (ColumnType × Bool) :=
  match serialTypes.lookup (Text.asciiLower name) with
  | some type => some (type, true)
  | none => (ColumnType.ofName? name).map fun type => (type, false)

def type? (cs : List Char) : Option ((ColumnType × Bool) × List Char) := do
  let (name, rest) ← name? cs
  return (← typeOfName? name, rest)

/-- White space around commas: blank, tab, carriage return and line feed. -/
def isGap (c : Char) : Bool :=
  c = ' ' || c = '\t' || c = '\r' || c = '\n'

/-- A comma with white space on both sides. -/
def comma? (cs : List Char) : Option (List Char) :=
  match cs.dropWhile isGap with
  | ',' :: rest => some (rest.dropWhile isGap)
  | _ => none

/-- A number of at most 32 bits. -/
def size? (cs : List Char) : Option (UInt32 × List Char) := do
  let (digits, rest) ← run? Char.isDigit cs
  let n ← Text.natOfDigits? digits
  if n < Nat.pow 2 32 then some (UInt32.ofNat n, rest) else none

/-- A second argument after a comma, if there is one. -/
def secondArgument (cs : List Char) : Option UInt32 × List Char :=
  match comma? cs >>= size? with
  | some (n, rest) => (some n, rest)
  | none => (none, cs)

/-- The arguments of a type: one number or two, in parentheses. -/
def arguments? : List Char → Option ((UInt32 × Option UInt32) × List Char)
  | '(' :: cs => do
    let (first, rest) ← size? cs
    let (second, rest) := secondArgument rest
    match rest with
    | ')' :: rest => some ((first, second), rest)
    | _ => none
  | _ => none

/-- **What arguments mean for a type**: two are precision and places; one is the precision of a
float or a decimal, and the length of any other type. -/
def withArguments (column : Column) : UInt32 × Option UInt32 → Column
  | (first, some places) => { column with precision := some first, places := some places }
  | (first, none) =>
    if column.type = .float ∨ column.type = .decimal then { column with precision := some first }
    else { column with length := some first }

/-- **One column**, or the input at the part that cannot be read. -/
def column? (cs : List Char) : Except (List Char) (Column × List Char) :=
  match name? cs with
  | none => .error cs
  | some (name, afterName) =>
    match afterName with
    | ':' :: atType =>
      match type? atType with
      | none => .error atType
      | some ((type, serial), afterType) =>
        let column := { Column.of name type with autoIncrement := serial }
        let (column, rest) := match arguments? afterType with
          | some (args, rest) => (withArguments column args, rest)
          | none => (column, afterType)
        let (ms, rest) := modifiers rest
        .ok (ms.foldl Modifier.modify column, rest)
    | _ => .error afterName

/-- Further columns, each after a comma, as long as they can be read; `fuel` bounds their
number. -/
def moreColumns : Nat → List Char → List Column × List Char
  | 0, cs => ([], cs)
  | fuel + 1, cs =>
    match comma? cs with
    | none => ([], cs)
    | some next =>
      match column? next with
      | .error _ => ([], cs)
      | .ok (column, rest) =>
        let (columns, rest) := moreColumns fuel rest
        (column :: columns, rest)

/-- The columns of an input, or the input at the part that cannot be read. -/
def columns? (cs : List Char) : Except (List Char) (List Column × List Char) := do
  let (column, rest) ← column? cs
  let (columns, rest) := moreColumns rest.length rest
  return (column :: columns, rest)

def errorAt (input rest : List Char) (fault : String → ParseFault) : ParseError :=
  ⟨Text.byteLength input - Text.byteLength rest, fault (String.ofList rest)⟩

/-- **Read a column list.**  White space around it does not count, not even for positions. -/
def parseColumns (s : String) : Except ParseError (List Column) :=
  let input := Text.trimList Text.isBlank s.toList
  if input.isEmpty then .error ⟨0, .emptyList⟩
  else
    match columns? input with
    | .ok (columns, []) => .ok columns
    | .ok (_, rest) => .error (errorAt input rest .trailing)
    | .error rest => .error (errorAt input rest .invalidColumn)

/-- Read a list of exactly one column. -/
def parseColumn (s : String) : Except ParseError Column := do
  match ← parseColumns s with
  | [column] => return column
  | columns => throw ⟨0, .severalColumns columns.length⟩

end OracleSql.ColumnList
