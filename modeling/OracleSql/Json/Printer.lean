import OracleSql.Binary64.Layout
import OracleSql.Json.Basic

/-!
# Writing JSON texts

`compact` writes a value without white space, `pretty` with one item or member on a line, indented
by two blanks.  Text stands as it is but for quotes, backslashes and control characters.
-/

namespace OracleSql.Json

/-- Numbers in JSON texts: positional from `1e-5` up to below `1e16`, at least one decimal, and a
value halfway between two shortest decimals goes to the even one. -/
def numberLayout : Binary64.Layout where
  tieUp n := n % 2 == 1
  positional e := decide (-5 ≤ e) && decide (e < 16)
  wholeEnd := ".0"
  infinity := "null"
  nan := "null"

/-- The text of a number; what is not finite has none. -/
def floatText (x : Binary64) : String :=
  if x.isInfinite then "null" else numberLayout.render x

example : floatText (Binary64.ofDecimal false 15 2 (-8)) = "1.5e-7" := by decide +kernel
example : floatText (Binary64.ofDecimal false 15 2 16) = "1.5e+17" := by decide +kernel

def hexDigit (n : Nat) : Char :=
  if n < 10 then Char.ofNat (0x30 + n) else Char.ofNat (0x57 + n)

/-- A character as it stands in a string. -/
def escapeChar (c : Char) : List Char :=
  if c = '"' then ['\\', '"']
  else if c = '\\' then ['\\', '\\']
  else if c = '\x08' then ['\\', 'b']
  else if c = '\t' then ['\\', 't']
  else if c = '\n' then ['\\', 'n']
  else if c = '\x0c' then ['\\', 'f']
  else if c = '\r' then ['\\', 'r']
  else if c.toNat < 32 then
    ['\\', 'u', '0', '0', hexDigit (c.toNat / 16), hexDigit (c.toNat % 16)]
  else [c]

def quoted (s : String) : String :=
  "\"" ++ String.ofList (s.toList.flatMap escapeChar) ++ "\""

mutual

/-- **The text of a value without white space.** -/
def compact : Json → String
  | null => "null"
  | bool b => if b then "true" else "false"
  | int n => toString n
  | float x => floatText x
  | text s => quoted s
  | list items => "[" ++ ",".intercalate (compactItems items) ++ "]"
  | object members => "\x7b" ++ ",".intercalate (compactMembers members) ++ "\x7d"

def compactItems : List Json → List String
  | [] => []
  | j :: rest => j.compact :: compactItems rest

def compactMembers : Members → List String
  | [] => []
  | (name, j) :: rest => (quoted name ++ ":" ++ j.compact) :: compactMembers rest

end

/-- A container over several lines, its entries indented; an empty one stays on its line. -/
def block (opening closing : String) (depth : Nat) (entries : List String) : String :=
  if entries.isEmpty then opening ++ closing
  else
    let line := "\n" ++ String.ofList (List.replicate (2 * (depth + 1)) ' ')
    opening ++ line ++ ("," ++ line).intercalate entries ++ "\n"
      ++ String.ofList (List.replicate (2 * depth) ' ') ++ closing

mutual

/-- **The text of a value with one item or member on a line**, at a depth of nesting. -/
def pretty (depth : Nat) : Json → String
  | list items => block "[" "]" depth (prettyItems (depth + 1) items)
  | object members => block "\x7b" "\x7d" depth (prettyMembers (depth + 1) members)
  | j => j.compact

def prettyItems (depth : Nat) : List Json → List String
  | [] => []
  | j :: rest => j.pretty depth :: prettyItems depth rest

def prettyMembers (depth : Nat) : Members → List String
  | [] => []
  | (name, j) :: rest => (quoted name ++ ": " ++ j.pretty depth) :: prettyMembers depth rest

end

end OracleSql.Json
