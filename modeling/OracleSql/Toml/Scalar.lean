import OracleSql.Toml.Basic

/-!
# Strings and words in TOML

Strings stand in one or three quotes of either kind, and only double quotes know escapes.  What
stands in no quotes is a word that runs to white space or to a sign that ends a value; its form
says what it is (`ofWord?`).
-/

namespace OracleSql.Toml

/-- White space within a line. -/
def isSpace (c : Char) : Bool :=
  c = ' ' || c = '\t'

/-- The characters that stand in strings and comments as they are: no control characters but the
tab. -/
def isPlain (c : Char) : Bool :=
  (c = '\t' || decide (32 ≤ c.toNat)) && c.toNat != 127

/-- The rest after an end of line. -/
def newline? : List Char → Option (List Char)
  | '\n' :: rest => some rest
  | '\r' :: '\n' :: rest => some rest
  | _ => none

/-! ### Strings -/

/-- The character of hexadecimal digits. -/
def hexChar? (digits : List Char) : Option Char := do
  let n ← digits.foldlM (fun n d => do return n * 16 + (← Text.hexValue? d)) 0
  if n.isValidChar then some (Char.ofNat n) else none

/-- The character of an escape of one letter. -/
def escape? : Char → Option Char
  | 'b' => some '\x08'
  | 't' => some '\t'
  | 'n' => some '\n'
  | 'f' => some '\x0c'
  | 'r' => some '\r'
  | '"' => some '"'
  | '\\' => some '\\'
  | _ => none

/-- A string and what follows it. -/
abbrev Scanned := Option (List Char × List Char)

def Scanned.cons (c : Char) (s : Scanned) : Scanned :=
  s.map fun (cs, rest) => (c :: cs, rest)

/-- A string in double quotes, after the first of them. -/
def basic? : List Char → Scanned
  | '"' :: rest => some ([], rest)
  | '\\' :: 'u' :: a :: b :: c :: d :: rest => do
    Scanned.cons (← hexChar? [a, b, c, d]) (basic? rest)
  | '\\' :: 'U' :: a :: b :: c :: d :: e :: f :: g :: h :: rest => do
    Scanned.cons (← hexChar? [a, b, c, d, e, f, g, h]) (basic? rest)
  | '\\' :: c :: rest => do Scanned.cons (← escape? c) (basic? rest)
  | c :: rest => if isPlain c ∧ c ≠ '\\' then Scanned.cons c (basic? rest) else none
  | [] => none

/-- A string in single quotes, after the first of them. -/
def literal? : List Char → Scanned
  | '\'' :: rest => some ([], rest)
  | c :: rest => if isPlain c then Scanned.cons c (literal? rest) else none
  | [] => none

/-- The end of a string in three quotes: up to two further quotes in front of it belong to the
string. -/
def closing? (q : Char) (cs : List Char) : Scanned :=
  match Text.dropPrefix [q, q, q] cs with
  | none => none
  | some rest =>
    match Text.dropPrefix [q, q] rest with
    | some rest => some ([q, q], rest)
    | none =>
      match Text.dropPrefix [q] rest with
      | some rest => some ([q], rest)
      | none => some ([], rest)

/-- Whether only white space is left on the line. -/
def endsLine (cs : List Char) : Bool :=
  (newline? (cs.dropWhile isSpace)).isSome

/-- A string in three double quotes, after the first three.  A backslash at the end of a line
joins the string to the next text; `joining` says that its white space is being passed over. -/
def longBasic? (joining : Bool) : List Char → Scanned
  | '\r' :: '\n' :: rest =>
    if joining then longBasic? true rest else Scanned.cons '\n' (longBasic? false rest)
  | '\\' :: 'u' :: a :: b :: c :: d :: rest => do
    Scanned.cons (← hexChar? [a, b, c, d]) (longBasic? false rest)
  | '\\' :: 'U' :: a :: b :: c :: d :: e :: f :: g :: h :: rest => do
    Scanned.cons (← hexChar? [a, b, c, d, e, f, g, h]) (longBasic? false rest)
  | '\\' :: c :: rest =>
    if endsLine (c :: rest) then longBasic? true (c :: rest)
    else do Scanned.cons (← escape? c) (longBasic? false rest)
  | c :: rest =>
    if joining && (isSpace c || c = '\n') then longBasic? true rest
    else
      match closing? '"' (c :: rest) with
      | some scanned => some scanned
      | none =>
        if (isPlain c ∨ c = '\n') ∧ c ≠ '\\' then Scanned.cons c (longBasic? false rest) else none
  | [] => none

/-- A string in three single quotes, after the first three. -/
def longLiteral? : List Char → Scanned
  | '\r' :: '\n' :: rest => Scanned.cons '\n' (longLiteral? rest)
  | c :: rest =>
    match closing? '\'' (c :: rest) with
    | some scanned => some scanned
    | none => if isPlain c ∨ c = '\n' then Scanned.cons c (longLiteral? rest) else none
  | [] => none

/-- The string within three quotes; an end of line right after them does not belong to it. -/
def afterQuotes (cs : List Char) : List Char :=
  (newline? cs).getD cs

/-- **A string in quotes.** -/
def string? : List Char → Scanned
  | '"' :: '"' :: '"' :: rest => longBasic? false (afterQuotes rest)
  | '"' :: rest => basic? rest
  | '\'' :: '\'' :: '\'' :: rest => longLiteral? (afterQuotes rest)
  | '\'' :: rest => literal? rest
  | _ => none

/-! ### Numbers -/

/-- Digits in groups with underscores between them, without the underscores. -/
def grouped? (isDigit : Char → Bool) (cs : List Char) : Option (List Char) :=
  if (cs.splitOn '_').all fun group => !group.isEmpty && group.all isDigit then
    some (cs.filter fun c => c != '_')
  else none

/-- The digits of a decimal integer: a zero stands alone. -/
def decimal? (cs : List Char) : Option (List Char) :=
  if cs.head? = some '0' ∧ cs.length ≠ 1 then none else grouped? Char.isDigit cs

/-- The number that digits of a base write. -/
def natOfBase? (base : Nat) (cs : List Char) : Option Nat := do
  let digits ← grouped? (fun c => (Text.hexValue? c).any fun v => decide (v < base)) cs
  digits.foldlM (fun n d => do return n * base + (← Text.hexValue? d)) 0

def int64? (n : Int) : Option Toml :=
  if -Int.pow 2 63 ≤ n ∧ n < Int.pow 2 63 then some (integer (Int64.ofInt n)) else none

/-- A sign and what follows it. -/
def sign : List Char → Bool × List Char
  | '-' :: cs => (true, cs)
  | '+' :: cs => (false, cs)
  | cs => (false, cs)

/-- An integer: `0x`, `0o` or `0b` and digits of that base, or a sign and decimal digits. -/
def integer? : List Char → Option Toml
  | '0' :: 'x' :: cs => natOfBase? 16 cs >>= fun n => int64? n
  | '0' :: 'o' :: cs => natOfBase? 8 cs >>= fun n => int64? n
  | '0' :: 'b' :: cs => natOfBase? 2 cs >>= fun n => int64? n
  | cs => do
    let (negative, cs) := sign cs
    let n ← Text.natOfDigits? (← decimal? cs)
    int64? (if negative then -n else n)

/-- An exponent: nothing, or `e` and digits with a sign. -/
def exponent? : List Char → Option Int
  | [] => some 0
  | c :: cs => do
    guard (c = 'e' ∨ c = 'E')
    let (negative, cs) := sign cs
    let n ← Text.natOfDigits? (← grouped? Char.isDigit cs)
    return if negative then -n else n

/-- A float with a fraction or an exponent or both.  One that is too large is refused, unless it
is negative. -/
def finite? (negative : Bool) (cs : List Char) : Option Toml := do
  let isPart (c : Char) : Bool := c.isDigit || c == '_'
  let whole ← decimal? (cs.takeWhile isPart)
  let rest := cs.dropWhile isPart
  guard !rest.isEmpty
  let (fraction, rest) ← match rest with
    | '.' :: rest => do
      pure (← grouped? Char.isDigit (rest.takeWhile isPart), rest.dropWhile isPart)
    | rest => pure ([], rest)
  let digits ← Text.natOfDigits? (whole ++ fraction)
  let e ← exponent? rest
  let x := Binary64.ofDecimal negative digits (whole ++ fraction).length (e - fraction.length)
  if x = Binary64.infinity false then none else some (float x)

/-- A float: a finite one, infinity or no number. -/
def float? (cs : List Char) : Option Toml :=
  let (negative, cs) := sign cs
  if cs = "inf".toList then some (float (Binary64.infinity negative))
  else if cs = "nan".toList then some (float Binary64.nan)
  else finite? negative cs

/-! ### Words -/

def endsWord (c : Char) : Bool :=
  isSpace c || c = '\n' || c = '\r' || c = ',' || c = ']' || c = '}' || c = '#'

/-- **The value of a word.** -/
def ofWord? (cs : List Char) : Option Toml :=
  if cs = "true".toList then some (bool true)
  else if cs = "false".toList then some (bool false)
  else (Moment.ofList? cs).map moment <|> float? cs <|> integer? cs

/-- A word and what follows it.  A blank may stand between a date and a time. -/
def word? (cs : List Char) : Option (Toml × List Char) := do
  let isPart (c : Char) : Bool := !endsWord c
  let word := cs.takeWhile isPart
  let rest := cs.dropWhile isPart
  match day? word, rest with
  | some (d, []), ' ' :: next =>
    match Moment.onDay? d (next.takeWhile isPart) with
    | some m => return (moment m, next.dropWhile isPart)
    | none => return (← ofWord? word, rest)
  | _, _ => return (← ofWord? word, rest)

/-- **A value that is no container**, and what follows it. -/
def scalar? (cs : List Char) : Option (Toml × List Char) :=
  match cs with
  | '"' :: _ | '\'' :: _ => (string? cs).map fun (s, rest) => (text (String.ofList s), rest)
  | _ => word? cs

end OracleSql.Toml
