import OracleSql.Binary64.Basic

/-!
# The fewest digits that read back

Every finite number is the nearest one to a whole interval of reals (`reads`).  `shortest` looks
for a decimal in that interval with one digit, then with two, and so on: for each count the only
candidates are the two neighbours of the number on the grid of decimals with that many digits.
Of two neighbours that both read back the nearer one is taken, and `tieUp` says which when they
are equally near.

The interval is kept in quarters of the number's own spacing, so all comparisons are between
natural numbers.
-/

namespace OracleSql.Binary64

/-- A decimal `digits · 10 ^ exponent`. -/
structure Decimal where
  digits : Nat
  exponent : Int
deriving DecidableEq, Inhabited

namespace Decimal

/-- The digits as characters, most significant first. -/
def characters (d : Decimal) : List Char :=
  Nat.toDigits 10 d.digits

/-- The exponent of the leading digit. -/
def scale (d : Decimal) : Int :=
  d.exponent + d.characters.length - 1

/-- The decimal without zeros at its end, in at most `fuel` steps. -/
def strip : Nat → Decimal → Decimal
  | 0, d => d
  | fuel + 1, d =>
    if d.digits ≠ 0 ∧ d.digits % 10 = 0 then strip fuel ⟨d.digits / 10, d.exponent + 1⟩ else d

end Decimal

/-- A positive finite number in quarters of its spacing: the value is `4 · significand` quarters,
the interval that reads back runs from `low` to `high` quarters. -/
structure Interval where
  value : Nat
  low : Nat
  high : Nat
  /-- The power of two that a quarter stands for. -/
  quarter : Int
  /-- Whether the ends themselves read back. -/
  closed : Bool

/-- The interval of reals nearest to a positive finite number.  Below a power of two the spacing
halves, so the lower end is half as far away. -/
def interval (x : Binary64) : Interval :=
  let m := 4 * x.significand
  let narrow : Bool := x.magnitude % Nat.pow 2 52 == 0 && decide (2 * Nat.pow 2 52 ≤ x.magnitude)
  { value := m
    low := if narrow then m - 1 else m - 2
    high := m + 2
    quarter := x.exponent - 2
    closed := x.significand % 2 == 0 }

/-- Compare a decimal, given as `n · 10 ^ k`, with a number of quarters: both sides are scaled to
natural numbers. -/
def compareScaled (n : Nat) (k : Int) (quarters : Nat) (q : Int) : Ordering :=
  let left := n * Nat.pow 10 k.toNat * Nat.pow 2 (-q).toNat
  let right := quarters * Nat.pow 2 q.toNat * Nat.pow 10 (-k).toNat
  compare left right

/-- Whether the decimal `n · 10 ^ k` reads back as the number of the interval. -/
def Interval.reads (i : Interval) (n : Nat) (k : Int) : Bool :=
  let below := compareScaled n k i.low i.quarter
  let above := compareScaled n k i.high i.quarter
  (below == .gt || (i.closed && below == .eq)) && (above == .lt || (i.closed && above == .eq))

/-- The neighbour below the value on the grid of multiples of `10 ^ k`, as a multiple. -/
def Interval.floorAt (i : Interval) (k : Int) : Nat :=
  (i.value * Nat.pow 2 i.quarter.toNat * Nat.pow 10 (-k).toNat) / (Nat.pow 10 k.toNat * Nat.pow 2 (-i.quarter).toNat)

/-- How the midpoint between `n · 10 ^ k` and `(n + 1) · 10 ^ k` compares with the value. -/
def Interval.midpoint (i : Interval) (n : Nat) (k : Int) : Ordering :=
  compareScaled (2 * n + 1) k (2 * i.value) i.quarter

/-- The neighbour on one grid that reads back, the nearer one when both do. -/
def Interval.atGrid? (i : Interval) (tieUp : Nat → Bool) (k : Int) : Option Decimal :=
  let n := i.floorAt k
  match i.reads n k, i.reads (n + 1) k with
  | true, true =>
    match i.midpoint n k with
    | .gt => some ⟨n, k⟩
    | .lt => some ⟨n + 1, k⟩
    | .eq => some ⟨if tieUp n then n + 1 else n, k⟩
  | true, false => some ⟨n, k⟩
  | false, true => some ⟨n + 1, k⟩
  | false, false => none

/-- The first grid with a decimal that reads back, among `fuel` grids from `10 ^ k` downward. -/
def Interval.search (i : Interval) (tieUp : Nat → Bool) : Nat → Int → Decimal
  | 0, k => ⟨i.floorAt k, k⟩
  | fuel + 1, k => (i.atGrid? tieUp k).getD (i.search tieUp fuel (k - 1))

/-- A bound for the exponent of the leading digit, never below it and at most two above. -/
def Interval.topScale (i : Interval) : Int :=
  (((Nat.log2 i.value : Int) + i.quarter + 1) * 30103) / 100000 + 1

/-- **The shortest decimal that reads back as a positive finite number**, and among those of its
length the nearest; `tieUp n` says whether a value halfway between `n` and `n + 1` goes up. -/
def shortest (tieUp : Nat → Bool) (x : Binary64) : Decimal :=
  let i := x.interval
  (i.search tieUp 20 i.topScale).strip 20

end OracleSql.Binary64
