/-!
# Writing TOML texts

How a string is written depends on what is in it: the first of several forms that shows it without
escapes is taken, double quotes before single ones and one quote before three; only where none of
them does, characters are escaped (`quoted`).
-/

namespace OracleSql.Toml

def longestRun (q : Char) (run : Nat) : List Char → Nat
  | [] => run
  | c :: cs => if c = q then longestRun q (run + 1) cs else max run (longestRun q 0 cs)

/-- Whether a character has to be escaped in every form: a control character other than tab and
line feed. -/
def isControl (c : Char) : Bool :=
  (decide (c.toNat < 32) || c.toNat == 127) && c != '\t' && c != '\n'

/-- A hexadecimal digit in upper case. -/
def hexDigit (n : Nat) : Char :=
  if n < 10 then Char.ofNat (0x30 + n) else Char.ofNat (0x37 + n)

/-- A character as it stands between double quotes; three of them leave line feeds alone. -/
def escapeChar (long : Bool) (c : Char) : List Char :=
  if c = '"' then ['\\', '"']
  else if c = '\\' then ['\\', '\\']
  else if c = '\x08' then ['\\', 'b']
  else if c = '\t' then ['\\', 't']
  else if c = '\n' then (if long then [c] else ['\\', 'n'])
  else if c = '\x0c' then ['\\', 'f']
  else if c = '\r' then ['\\', 'r']
  else if isControl c then ['\\', 'u', '0', '0', hexDigit (c.toNat / 16), hexDigit (c.toNat % 16)]
  else [c]

/-- Characters between single double quotes. -/
def escaped (cs : List Char) : List Char :=
  cs.flatMap (escapeChar false)

/-- Characters between three double quotes: of a run of double quotes every third is escaped. -/
def escapedLong (run : Nat) : List Char → List Char
  | [] => []
  | c :: cs =>
    if c = '"' ∧ run < 2 then c :: escapedLong (run + 1) cs
    else escapeChar true c ++ escapedLong 0 cs

/-- One or three quotes of either kind. -/
inductive Form where
  | basic | literal | longBasic | longLiteral
deriving DecidableEq

/-- The first form that shows the characters without escapes. -/
def plainForm? (cs : List Char) : Option Form :=
  let doubles := longestRun '"' 0 cs
  let singles := longestRun '\'' 0 cs
  let lines := cs.contains '\n'
  let backslash := cs.contains '\\'
  if cs.any isControl then none
  else if !backslash && doubles = 0 && !lines then some .basic
  else if singles = 0 && !lines then some .literal
  else if !backslash && doubles ≤ 2 then some .longBasic
  else if singles ≤ 2 then some .longLiteral
  else none

def formOf (cs : List Char) : Form :=
  (plainForm? cs).getD (if cs.contains '\n' then .longBasic else .basic)

/-- Characters in a form; a string of several lines starts on a line of its own. -/
def Form.write (form : Form) (cs : List Char) : String :=
  let lead := if cs.contains '\n' then "\n" else ""
  match form with
  | basic => "\"" ++ String.ofList (escaped cs) ++ "\""
  | literal => "'" ++ String.ofList cs ++ "'"
  | longBasic => "\"\"\"" ++ lead ++ String.ofList (escapedLong 0 cs) ++ "\"\"\""
  | longLiteral => "'''" ++ lead ++ String.ofList cs ++ "'''"

def quoted (s : String) : String :=
  (formOf s.toList).write s.toList

/-- A key: without quotes if it can be, and else within one line. -/
def keyText (s : String) : String :=
  let cs := s.toList
  let special := cs.any fun c => isControl c || c = '\n'
  if !cs.isEmpty && cs.all fun c => c.isAlphanum || c = '_' || c = '-' then s
  else if special || (cs.contains '\'' && (cs.contains '\\' || cs.contains '"')) then
    Form.basic.write cs
  else if cs.contains '\\' || cs.contains '"' then Form.literal.write cs
  else Form.basic.write cs

def pairLine (key value : String) : String :=
  keyText key ++ " = " ++ value ++ "\n"

example : quoted "a\"b" = "'a\"b'" := by decide +kernel
example : quoted "it's" = "\"it's\"" := by decide +kernel
example : quoted "it's \"x\"" = "\"\"\"it's \"x\"\"\"\"" := by decide +kernel

end OracleSql.Toml
