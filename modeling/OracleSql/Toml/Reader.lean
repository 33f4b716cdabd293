import OracleSql.Toml.Scalar

/-!
# Reading TOML texts

A text is a list of lines, each a pair, a header or nothing (`lines?`), and the lines make up the
root table section by section (`read?`).  Containers may be nested to a depth of 79, and a key
may have as many parts.
-/

namespace OracleSql.Toml

/-- How deep containers may be nested, and how many parts a key may have. -/
def maxDepth : Nat := 79

/-! ### Keys -/

/-- The characters of keys without quotes. -/
def isBare (c : Char) : Bool :=
  c.isAlphanum || c = '_' || c = '-'

def keyPart? : List Char → Option (String × List Char)
  | '"' :: rest => (basic? rest).map fun (s, rest) => (String.ofList s, rest)
  | '\'' :: rest => (literal? rest).map fun (s, rest) => (String.ofList s, rest)
  | cs =>
    let part := cs.takeWhile isBare
    if part.isEmpty then none else some (String.ofList part, cs.dropWhile isBare)

/-- The parts of a key between dots, at most as many as the first number; white space may stand
around them. -/
def keyPath? : Nat → List Char → Option (List String × List Char)
  | 0, _ => none
  | limit + 1, cs => do
    let (part, rest) ← keyPart? (cs.dropWhile isSpace)
    match rest.dropWhile isSpace with
    | '.' :: rest =>
      let (parts, rest) ← keyPath? limit rest
      return (part :: parts, rest)
    | rest => return ([part], rest)

/-- A key: the path to its last part, and that part. -/
def key? (cs : List Char) : Option ((List String × String) × List Char) := do
  let (parts, rest) ← keyPath? maxDepth cs
  return ((parts.dropLast, ← parts.getLast?), rest)

/-! ### Containers -/

/-- Pass over white space, ends of lines and comments that are closed by one; the flag says that a
comment is open. -/
def skipGaps (inComment : Bool) : List Char → Option (List Char)
  | '\r' :: '\n' :: rest => skipGaps false rest
  | c :: rest =>
    if c = '\n' then skipGaps false rest
    else if inComment then (if isPlain c then skipGaps true rest else none)
    else if isSpace c then skipGaps false rest
    else if c = '#' then skipGaps true rest
    else some (c :: rest)
  | [] => if inComment then none else some []

/-- The items of a list and its end; `fuel` bounds their number. -/
def listItems? (read : List Char → Option (Toml × List Char)) :
    Nat → List Char → Option (List Toml × List Char)
  | 0, _ => none
  | fuel + 1, cs => do
    match ← skipGaps false cs with
    | ']' :: rest => return ([], rest)
    | cs =>
      let (item, rest) ← read cs
      match ← skipGaps false rest with
      | ',' :: rest =>
        let (items, rest) ← listItems? read fuel rest
        return (item :: items, rest)
      | ']' :: rest => return ([item], rest)
      | _ => none

/-- A pair within one line and what follows it. -/
def pair? (read : List Char → Option (Toml × List Char)) (cs : List Char) :
    Option (Pair × List Char) := do
  let ((path, key), rest) ← key? cs
  match rest with
  | '=' :: rest =>
    let (value, rest) ← read (rest.dropWhile isSpace)
    return (⟨path, key, value⟩, rest.dropWhile isSpace)
  | _ => none

/-- The pairs of a table in braces and its end; `fuel` bounds their number. -/
def tablePairs? (read : List Char → Option (Toml × List Char)) :
    Nat → List Char → Option (List Pair × List Char)
  | 0, _ => none
  | fuel + 1, cs => do
    let (pair, rest) ← pair? read cs
    match rest with
    | ',' :: rest =>
      let (pairs, rest) ← tablePairs? read fuel rest
      return (pair :: pairs, rest)
    | '}' :: rest => return ([pair], rest)
    | _ => none

/-- A table in braces, after the first of them. -/
def inlineTable? (read : List Char → Option (Toml × List Char)) (cs : List Char) :
    Option (Toml × List Char) :=
  match cs.dropWhile isSpace with
  | '}' :: rest => some (table .inline [], rest)
  | cs => do
    let (pairs, rest) ← tablePairs? read cs.length cs
    return (table .inline (← putAll pairs []), rest)

/-- **A value and what follows it**; the number bounds the depth of containers. -/
def value? : Nat → List Char → Option (Toml × List Char)
  | 0, cs => scalar? cs
  | depth + 1, cs =>
    match cs with
    | '[' :: rest => (listItems? (value? depth) (rest.length + 1) rest).map
        fun (items, rest) => (list items, rest)
    | '{' :: rest => inlineTable? (value? depth) rest
    | cs => scalar? cs

/-! ### Lines -/

inductive Line where
  | pair (p : Pair)
  | header (h : Header)

/-- The rest of a line that holds nothing more than a comment, and what follows the line. -/
def endLine? (cs : List Char) : Option (List Char) :=
  let cs := match cs.dropWhile isSpace with
    | '#' :: rest => rest.dropWhile isPlain
    | rest => rest
  if cs.isEmpty then some [] else newline? cs

def header? : List Char → Option (Header × List Char)
  | '[' :: '[' :: rest => do
    let ((path, key), rest) ← key? rest
    return (.element path key, ← Text.dropPrefix [']', ']'] rest)
  | '[' :: rest => do
    let ((path, key), rest) ← key? rest
    return (.table path key, ← Text.dropPrefix [']'] rest)
  | _ => none

/-- A line that is not empty. -/
def line? (cs : List Char) : Option (Line × List Char) :=
  match cs with
  | '[' :: _ => (header? cs).map fun (h, rest) => (.header h, rest)
  | _ => (pair? (value? maxDepth) cs).map fun (p, rest) => (.pair p, rest)

/-- The lines of a text; `fuel` bounds their number. -/
def lines? : Nat → List Char → Option (List Line)
  | 0, _ => none
  | fuel + 1, cs =>
    let cs := cs.dropWhile isSpace
    if cs.isEmpty then some []
    else
      match endLine? cs with
      | some rest => lines? fuel rest
      | none => do
        let (line, rest) ← line? cs
        return line :: (← lines? fuel (← endLine? rest))

/-- The sections of lines: the header that is open and its pairs in reverse, then the lines. -/
def sections (header : Header) (pairs : List Pair) : List Line → List Section
  | [] => [⟨header, pairs.reverse⟩]
  | .pair p :: rest => sections header (p :: pairs) rest
  | .header h :: rest => ⟨header, pairs.reverse⟩ :: sections h [] rest

/-- **The root table of a text.**  A byte order mark may stand in front of it. -/
def read? (s : String) : Option Entries := do
  let cs := match s.toList with
    | '\uFEFF' :: cs => cs
    | cs => cs
  ofSections (sections .root [] (← lines? (cs.length + 1) cs))

end OracleSql.Toml
