import OracleSql.Text.Blank

/-!
# Dates and timestamps

Days of the proleptic Gregorian calendar, and days with a time.  Both carry the proof that they
exist, so that no operation has to ask again.  `Date.text` writes `YYYY-MM-DD` and
`Timestamp.text` adds `THH:MM:SS` and a fraction of three, six or nine digits, the fewest that
keep it; `Date.ofText?` and `Timestamp.ofText?` read these forms, and also white space before
each number and around the separators.
-/

namespace OracleSql

def isLeapYear (year : Int) : Bool :=
  year % 4 == 0 && (year % 100 != 0 || year % 400 == 0)

def daysInMonth (year : Int) (month : Nat) : Nat :=
  if month = 2 then (if isLeapYear year then 29 else 28)
  else if month = 4 ∨ month = 6 ∨ month = 9 ∨ month = 11 then 30
  else 31

/-- The days that a `Date` may denote. -/
def IsDay (year : Int) (month day : Nat) : Prop :=
  (-262143 ≤ year ∧ year ≤ 262142) ∧ (1 ≤ month ∧ month ≤ 12) ∧
    (1 ≤ day ∧ day ≤ daysInMonth year month)

instance (year : Int) (month day : Nat) : Decidable (IsDay year month day) := by
  unfold IsDay; infer_instance

/-- A day of the calendar. -/
structure Date where
  year : Int
  month : Nat
  day : Nat
  isDay : IsDay year month day
deriving DecidableEq

/-- The times that a `Timestamp` may hold; second 60 is a leap second. -/
def IsTime (hour minute second nanosecond : Nat) : Prop :=
  hour < 24 ∧ minute < 60 ∧ second ≤ 60 ∧ nanosecond < 1000000000

instance (h m s n : Nat) : Decidable (IsTime h m s n) := by
  unfold IsTime; infer_instance

/-- A day and a time to the nanosecond. -/
structure Timestamp where
  date : Date
  hour : Nat
  minute : Nat
  second : Nat
  nanosecond : Nat
  isTime : IsTime hour minute second nanosecond
deriving DecidableEq

/-! ### Writing -/

/-- A number in at least `width` digits. -/
def padded (width n : Nat) : String :=
  let cs := Nat.toDigits 10 n
  String.ofList (List.replicate (width - cs.length) '0' ++ cs)

/-- A year in four digits, with a sign when it lies outside `0` to `9999`. -/
def yearText (year : Int) : String :=
  if 0 ≤ year ∧ year ≤ 9999 then padded 4 year.toNat
  else (if 0 ≤ year then "+" else "-") ++ padded 4 year.natAbs

/-- The day as `YYYY-MM-DD`. -/
def Date.text (d : Date) : String :=
  yearText d.year ++ "-" ++ padded 2 d.month ++ "-" ++ padded 2 d.day

/-- The time as `HH:MM:SS`. -/
def Timestamp.clock (t : Timestamp) : String :=
  padded 2 t.hour ++ ":" ++ padded 2 t.minute ++ ":" ++ padded 2 t.second

/-- A fraction of a second: nothing, or the fewest of three, six and nine digits. -/
def fractionText (nanosecond : Nat) : String :=
  if nanosecond = 0 then ""
  else if nanosecond % 1000000 = 0 then "." ++ padded 3 (nanosecond / 1000000)
  else if nanosecond % 1000 = 0 then "." ++ padded 6 (nanosecond / 1000)
  else "." ++ padded 9 nanosecond

/-- The day and time as `YYYY-MM-DDTHH:MM:SS`, and the fraction. -/
def Timestamp.text (t : Timestamp) : String :=
  t.date.text ++ "T" ++ t.clock ++ fractionText t.nanosecond

/-! ### Reading -/

/-- White space, then a number of at least one and at most `width` digits. -/
def scanNumber (width : Nat) (cs : List Char) : Option (Nat × List Char) :=
  let cs := cs.dropWhile Text.isBlank
  let digits := (cs.take width).takeWhile Char.isDigit
  (Text.natOfDigits? digits).map fun n => (n, cs.drop digits.length)

/-- A year: up to four digits, or a sign and any number of them. -/
def scanYear (cs : List Char) : Option (Int × List Char) :=
  match cs.dropWhile Text.isBlank with
  | '-' :: rest => signed (-1) rest
  | '+' :: rest => signed 1 rest
  | rest => (scanNumber 4 rest).map fun (n, rest) => ((n : Int), rest)
where
  /-- The digits after a sign, which white space may not precede. -/
  signed (sign : Int) (cs : List Char) : Option (Int × List Char) :=
    let digits := cs.takeWhile Char.isDigit
    (Text.natOfDigits? digits).map fun n => (sign * n, cs.drop digits.length)

/-- White space, then the separator. -/
def scanSeparator (c : Char) (cs : List Char) : Option (List Char) :=
  match cs.dropWhile Text.isBlank with
  | [] => none
  | d :: rest => if d = c then some rest else none

/-- A day at the start of a text, and what follows it and its white space. -/
def Date.scan (cs : List Char) : Option (Date × List Char) := do
  let (year, cs) ← scanYear cs
  let cs ← scanSeparator '-' cs
  let (month, cs) ← scanNumber 2 cs
  let cs ← scanSeparator '-' cs
  let (day, cs) ← scanNumber 2 cs
  if h : IsDay year month day then some (⟨year, month, day, h⟩, cs.dropWhile Text.isBlank) else none

def Date.ofText? (s : String) : Option Date :=
  match Date.scan s.toList with
  | some (d, []) => some d
  | _ => none

/-- The nanoseconds of a fraction: the first nine digits count, further ones are passed over. -/
def scanFraction : List Char → Option (Nat × List Char)
  | '.' :: cs =>
    let digits := cs.takeWhile Char.isDigit
    let kept := digits.take 9
    (Text.natOfDigits? kept).map fun n => (n * Nat.pow 10 (9 - kept.length), cs.drop digits.length)
  | cs => some (0, cs)

def Timestamp.ofText? (s : String) : Option Timestamp := do
  let (date, cs) ← Date.scan s.toList
  let cs ← scanSeparator 'T' cs
  let (hour, cs) ← scanNumber 2 cs
  let cs ← scanSeparator ':' cs
  let (minute, cs) ← scanNumber 2 cs
  let cs ← scanSeparator ':' cs
  let (second, cs) ← scanNumber 2 cs
  let (nanosecond, cs) ← scanFraction cs
  if h : IsTime hour minute second nanosecond then
    if (cs.dropWhile Text.isBlank).isEmpty then some ⟨date, hour, minute, second, nanosecond, h⟩
    else none
  else none

end OracleSql
