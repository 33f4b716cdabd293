import OracleSql.Json.Number

/-!
# Reading JSON texts

A text is first cut into tokens, one character at a time (`Token.scan`), and the tokens are then
put together with a stack of the containers that are still open (`assemble`).  Both go once
through their input.  Containers may be nested to a depth of 127.
-/

namespace OracleSql.Json

inductive Token where
  | openList | closeList | openObject | closeObject | comma | colon
  /-- A number, a string or a word such as `true`. -/
  | scalar (j : Json)

/-- What the characters read last belong to; they are kept in reverse. -/
inductive Scan where
  | idle
  | number (read : List Char)
  | word (read : List Char)
  | string (read : List Char)
  /-- In a string, after a backslash. -/
  | escaped (read : List Char)

/-- White space between tokens. -/
def isSpace (c : Char) : Bool :=
  c = ' ' || c = '\t' || c = '\n' || c = '\r'

def isNumberChar (c : Char) : Bool :=
  c.isDigit || c = '-' || c = '+' || c = '.' || c = 'e' || c = 'E'

/-- The number of four hexadecimal digits. -/
def hexUnit? (a b c d : Char) : Option Nat := do
  return (((← Text.hexValue? a) * 16 + (← Text.hexValue? b)) * 16 + (← Text.hexValue? c)) * 16
    + (← Text.hexValue? d)

/-- The character of a one-letter escape. -/
def escape? : Char → Option Char
  | '"' => some '"'
  | '\\' => some '\\'
  | '/' => some '/'
  | 'b' => some '\x08'
  | 'f' => some '\x0c'
  | 'n' => some '\n'
  | 'r' => some '\r'
  | 't' => some '\t'
  | _ => none

/-- The content of a string, written between its quotes.  A control character is refused, and so
is one half of a surrogate pair without the other. -/
def unescape? : List Char → Option (List Char)
  | [] => some []
  | '\\' :: 'u' :: a :: b :: c :: d :: rest => do
    let unit ← hexUnit? a b c d
    if 0xD800 ≤ unit ∧ unit < 0xDC00 then
      match rest with
      | '\\' :: 'u' :: a :: b :: c :: d :: rest => do
        let low ← hexUnit? a b c d
        if 0xDC00 ≤ low ∧ low < 0xE000 then
          return Char.ofNat (0x10000 + (unit - 0xD800) * 0x400 + (low - 0xDC00))
            :: (← unescape? rest)
        else none
      | _ => none
    else if 0xDC00 ≤ unit ∧ unit < 0xE000 then none
    else return Char.ofNat unit :: (← unescape? rest)
  | '\\' :: c :: rest => do return (← escape? c) :: (← unescape? rest)
  | c :: rest => if c = '\\' ∨ c.toNat < 32 then none else return c :: (← unescape? rest)

def wordValue? (cs : List Char) : Option Json :=
  if cs = "null".toList then some null
  else if cs = "true".toList then some (bool true)
  else if cs = "false".toList then some (bool false)
  else none

namespace Scan

/-- The tokens and the state after a character that starts something new. -/
def start (c : Char) : Option (List Token × Scan) :=
  if isSpace c then some ([], idle)
  else if c = '[' then some ([.openList], idle)
  else if c = ']' then some ([.closeList], idle)
  else if c = '{' then some ([.openObject], idle)
  else if c = '}' then some ([.closeObject], idle)
  else if c = ',' then some ([.comma], idle)
  else if c = ':' then some ([.colon], idle)
  else if c = '"' then some ([], string [])
  else if isNumberChar c && c != 'e' && c != 'E' then some ([], number [c])
  else if c.isAlpha then some ([], word [c])
  else none

/-- The tokens that are complete when a character other than one of theirs is met. -/
def finish : Scan → Option (List Token)
  | idle => some []
  | number read => (numberOfText? read.reverse).map fun j => [.scalar j]
  | word read => (wordValue? read.reverse).map fun j => [.scalar j]
  | string _ | escaped _ => none

/-- One character further. -/
def step (s : Scan) (c : Char) : Option (List Token × Scan) :=
  match s with
  | string read =>
    if c = '"' then
      (unescape? read.reverse).map fun cs => ([.scalar (text (String.ofList cs))], idle)
    else if c = '\\' then some ([], escaped (c :: read))
    else some ([], string (c :: read))
  | escaped read => some ([], string (c :: read))
  | number read =>
    if isNumberChar c then some ([], number (c :: read))
    else do
      let (tokens, next) ← start c
      return ((← s.finish) ++ tokens, next)
  | word read =>
    if c.isAlpha then some ([], word (c :: read))
    else do
      let (tokens, next) ← start c
      return ((← s.finish) ++ tokens, next)
  | idle => start c

end Scan

/-- The tokens of a text, in reverse and after those read before. -/
def Token.scanFrom (tokens : List Token) (s : Scan) : List Char → Option (List Token)
  | [] => s.finish.map fun last => last.reverse ++ tokens
  | c :: cs =>
    match s.step c with
    | none => none
    | some (new, next) => Token.scanFrom (new.reverse ++ tokens) next cs

/-- **The tokens of a text.** -/
def Token.scan (cs : List Char) : Option (List Token) :=
  (Token.scanFrom [] .idle cs).map List.reverse

/-- A container that is still open, with what it holds so far in reverse. -/
inductive Frame where
  | list (items : List Json)
  /-- An object, and the name whose value is awaited. -/
  | object (members : Members) (name : String)

/-- What may come next. -/
inductive Awaited where
  | value
  /-- A value or the end of an empty list. -/
  | firstItem
  | name
  /-- A name or the end of an empty object. -/
  | firstName
  | colon
  /-- A comma or the end of the container. -/
  | separator
deriving DecidableEq

/-- How deep containers may be nested. -/
def maxDepth : Nat := 127

/-- **Put tokens together.**  `stack` holds the open containers, the innermost first, and `done`
the value once the outermost is complete. -/
def assemble (stack : List Frame) (awaited : Awaited) (done : Option Json) :
    List Token → Option Json
  | [] => if stack.isEmpty then done else none
  | t :: ts =>
    if done.isSome ∧ stack.isEmpty then none
    else
      match t, awaited with
      | .scalar j, .value | .scalar j, .firstItem => deliver j stack ts
      | .openList, .value | .openList, .firstItem =>
        if maxDepth ≤ stack.length then none else assemble (.list [] :: stack) .firstItem none ts
      | .openObject, .value | .openObject, .firstItem =>
        if maxDepth ≤ stack.length then none
        else assemble (.object [] "" :: stack) .firstName none ts
      | .scalar (.text s), .name | .scalar (.text s), .firstName =>
        match stack with
        | .object members _ :: outer => assemble (.object members s :: outer) .colon none ts
        | _ => none
      | .colon, .colon => assemble stack .value none ts
      | .comma, .separator =>
        match stack with
        | .list _ :: _ => assemble stack .value none ts
        | .object _ _ :: _ => assemble stack .name none ts
        | [] => none
      | .closeList, .separator | .closeList, .firstItem =>
        match stack with
        | .list items :: outer => deliver (.list items.reverse) outer ts
        | _ => none
      | .closeObject, .separator | .closeObject, .firstName =>
        match stack with
        | .object members _ :: outer => deliver (.object members.reverse) outer ts
        | _ => none
      | _, _ => none
where
  /-- Put a complete value into the innermost open container. -/
  deliver (j : Json) (stack : List Frame) (ts : List Token) : Option Json :=
    match stack with
    | [] => assemble [] .separator (some j) ts
    | .list items :: outer => assemble (.list (j :: items) :: outer) .separator none ts
    | .object members name :: outer =>
      assemble (.object ((name, j) :: members) name :: outer) .separator none ts

/-- **The value that a text writes.** -/
def read? (s : String) : Option Json := do
  assemble [] .value none (← Token.scan s.toList)

end OracleSql.Json
