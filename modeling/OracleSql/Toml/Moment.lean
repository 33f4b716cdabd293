import OracleSql.Calendar

/-!
# Dates and times in TOML

A moment is a date, a time of day, or a date with a time, which may then have an offset from
universal time.  There is more than one way to write a moment, and more digits may be written than
count, so it is kept as what it says (`Moment.ofList?`), and `Moment.text` writes one form of it.
-/

namespace OracleSql.Toml

/-- A time of day to the nanosecond; second 60 is a leap second. -/
structure TimeOfDay where
  hour : Nat
  minute : Nat
  second : Nat
  nanosecond : Nat
  isTime : IsTime hour minute second nanosecond

instance : DecidableEq TimeOfDay := fun s t =>
  decidable_of_iff (s.hour = t.hour ∧ s.minute = t.minute ∧ s.second = t.second ∧
    s.nanosecond = t.nanosecond) (by cases s; cases t; simp)

/-- How far a clock is from universal time. -/
inductive Offset where
  | universal
  /-- The clock is ahead by minutes, or behind by minutes that are negative. -/
  | ahead (minutes : Int)
deriving DecidableEq

/-- A date, a time of day, or both. -/
inductive Moment where
  | date (d : Date)
  | time (t : TimeOfDay)
  | full (d : Date) (t : TimeOfDay) (offset : Option Offset)
deriving DecidableEq

/-! ### Writing -/

/-- The time as `HH:MM:SS`, and a fraction that does not end in a zero. -/
def TimeOfDay.text (t : TimeOfDay) : String :=
  let digits := (padded 9 t.nanosecond).toList.reverse.dropWhile fun c => c = '0'
  padded 2 t.hour ++ ":" ++ padded 2 t.minute ++ ":" ++ padded 2 t.second
    ++ (if digits.isEmpty then "" else "." ++ String.ofList digits.reverse)

/-- The offset as `Z`, or as hours and minutes with a sign. -/
def Offset.text : Offset → String
  | universal => "Z"
  | ahead n =>
    (if n < 0 then "-" else "+") ++ padded 2 (n.natAbs / 60) ++ ":" ++ padded 2 (n.natAbs % 60)

/-- **The text of a moment**, with `T` between the date and the time. -/
def Moment.text : Moment → String
  | date d => d.text
  | time t => t.text
  | full d t offset => d.text ++ "T" ++ t.text ++ (offset.map Offset.text).getD ""

/-! ### Reading -/

/-- A number of exactly `width` digits, and what follows it. -/
def fixed? (width : Nat) (cs : List Char) : Option (Nat × List Char) := do
  let digits := cs.take width
  guard (digits.length = width)
  return (← Text.natOfDigits? digits, cs.drop width)

/-- A day of the calendar, written `YYYY-MM-DD`, and what follows it. -/
def day? (cs : List Char) : Option (Date × List Char) := do
  let (year, cs) ← fixed? 4 cs
  let (month, cs) ← Text.dropPrefix ['-'] cs >>= fixed? 2
  let (day, cs) ← Text.dropPrefix ['-'] cs >>= fixed? 2
  if h : IsDay year month day then return (⟨year, month, day, h⟩, cs) else none

/-- An hour and a minute, written `HH:MM`, and what follows them. -/
def minute? (cs : List Char) : Option ((Nat × Nat) × List Char) := do
  let (hour, cs) ← fixed? 2 cs
  let (minute, cs) ← Text.dropPrefix [':'] cs >>= fixed? 2
  guard (hour < 24 ∧ minute < 60)
  return ((hour, minute), cs)

/-- A time, written `HH:MM:SS` with or without a fraction, and what follows it. -/
def timeOfDay? (cs : List Char) : Option (TimeOfDay × List Char) := do
  let ((hour, minute), cs) ← minute? cs
  let (second, cs) ← Text.dropPrefix [':'] cs >>= fixed? 2
  let (nanosecond, cs) ← scanFraction cs
  if h : IsTime hour minute second nanosecond then
    return (⟨hour, minute, second, nanosecond, h⟩, cs)
  else none

/-- The offset at the end of a moment, which may be missing. -/
def offset? : List Char → Option (Option Offset)
  | [] => some none
  | ['Z'] | ['z'] => some (some .universal)
  | c :: cs => do
    guard (c = '+' ∨ c = '-')
    let ((hour, minute), rest) ← minute? cs
    guard rest.isEmpty
    let n : Int := hour * 60 + minute
    return some (.ahead (if c = '-' then -n else n))

namespace Moment

/-- A day with the time and the offset that are written behind it. -/
def onDay? (d : Date) (cs : List Char) : Option Moment := do
  let (t, cs) ← timeOfDay? cs
  return full d t (← offset? cs)

/-- **The moment that characters write**; a date and a time are joined by `T`. -/
def ofList? (cs : List Char) : Option Moment :=
  match day? cs with
  | some (d, []) => some (date d)
  | some (d, c :: rest) => if c = 'T' ∨ c = 't' then onDay? d rest else none
  | none =>
    match timeOfDay? cs with
    | some (t, []) => some (time t)
    | _ => none

end Moment

example : (Moment.ofList? "1979-05-27t07:32:00.120-00:00".toList).map Moment.text =
    some "1979-05-27T07:32:00.12+00:00" := by decide +kernel
example : (Moment.ofList? "07:32:00.0000000019".toList).map Moment.text =
    some "07:32:00.000000001" := by decide +kernel

end OracleSql.Toml
