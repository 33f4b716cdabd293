/-!
# Double-precision numbers

A `Binary64` is a double-precision number held as the 64 bits of its interchange form: a sign, an
exponent of eleven bits and a fraction of fifty-two.  A finite one denotes
`± significand · 2 ^ exponent`.  Everything here is exact arithmetic on naturals: `nearest` gives
the number nearest to a quotient (ties to the even significand), and multiplication and division
are `nearest` of the exact result.
-/

namespace OracleSql

/-- A double-precision number, as the 64 bits of its interchange form. -/
structure Binary64 where
  bits : UInt64
deriving DecidableEq, Inhabited

namespace Binary64

def isNegative (x : Binary64) : Bool :=
  decide (Nat.pow 2 63 ≤ x.bits.toNat)

/-- The bits without the sign. -/
def magnitude (x : Binary64) : Nat :=
  x.bits.toNat % Nat.pow 2 63

/-- The bits of infinity; larger magnitudes are no numbers. -/
def infinityMagnitude : Nat :=
  2047 * Nat.pow 2 52

/-- The number with a given sign and magnitude. -/
def ofMagnitude (negative : Bool) (magnitude : Nat) : Binary64 :=
  ⟨UInt64.ofNat (magnitude % Nat.pow 2 63 + if negative then Nat.pow 2 63 else 0)⟩

def infinity (negative : Bool) : Binary64 :=
  ofMagnitude negative infinityMagnitude

/-- Not a number, with the sign clear and the first fraction bit set. -/
def nan : Binary64 :=
  ofMagnitude false (infinityMagnitude + Nat.pow 2 51)

def zero : Binary64 :=
  ofMagnitude false 0

def isNaN (x : Binary64) : Bool :=
  decide (infinityMagnitude < x.magnitude)

def isInfinite (x : Binary64) : Bool :=
  x.magnitude == infinityMagnitude

def isZero (x : Binary64) : Bool :=
  x.magnitude == 0

def neg (x : Binary64) : Binary64 :=
  ofMagnitude (!x.isNegative) x.magnitude

/-- The integer factor of a finite number. -/
def significand (x : Binary64) : Nat :=
  if x.magnitude / Nat.pow 2 52 = 0 then x.magnitude else x.magnitude % Nat.pow 2 52 + Nat.pow 2 52

/-- The power of two of a finite number. -/
def exponent (x : Binary64) : Int :=
  (max (x.magnitude / Nat.pow 2 52) 1 : Nat) - 1075

/-- Division rounded to the nearest natural number, a half going to the even one. -/
def divideHalfEven (num den : Nat) : Nat :=
  let q := num / den
  let twice := 2 * (num % den)
  if twice < den then q else if den < twice then q + 1 else q + q % 2

/-- The exponent `e` with `2 ^ e ≤ num / den < 2 ^ (e + 1)`. -/
def ratioLog2 (num den : Nat) : Int :=
  let e : Int := (Nat.log2 num : Int) - Nat.log2 den
  let reaches : Bool :=
    if 0 ≤ e then decide (den * Nat.pow 2 e.toNat ≤ num) else decide (den ≤ num * Nat.pow 2 (-e).toNat)
  if reaches then e else e - 1

/-- The magnitude nearest to `num / den`; beyond the largest finite number it is infinity.

The grid of a number with exponent `e` has the spacing `2 ^ (e - 52)`, and no grid is finer than
`2 ^ (-1074)`.  A significand that rounds up to `2 ^ 53` carries into the next exponent by
itself, since the fields of the interchange form lie side by side. -/
def nearestMagnitude (num den : Nat) : Nat :=
  if num = 0 then 0
  else
    let spacing : Int := max (ratioLog2 num den - 52) (-1074)
    let s :=
      if 0 ≤ spacing then divideHalfEven num (den * Nat.pow 2 spacing.toNat)
      else divideHalfEven (num * Nat.pow 2 (-spacing).toNat) den
    min ((spacing + 1074).toNat * Nat.pow 2 52 + s) infinityMagnitude

/-- **The double-precision number nearest to `± num / den`.** -/
def nearest (negative : Bool) (num den : Nat) : Binary64 :=
  ofMagnitude negative (nearestMagnitude num den)

/-- The number nearest to `± m · 2 ^ e`. -/
def nearestScaled (negative : Bool) (m : Nat) (e : Int) : Binary64 :=
  if 0 ≤ e then nearest negative (m * Nat.pow 2 e.toNat) 1 else nearest negative m (Nat.pow 2 (-e).toNat)

def ofNat (n : Nat) : Binary64 :=
  nearest false n 1

/-- Product of finite numbers. -/
def mul (x y : Binary64) : Binary64 :=
  nearestScaled (x.isNegative != y.isNegative) (x.significand * y.significand)
    (x.exponent + y.exponent)

/-- Quotient of finite numbers, the second not zero. -/
def div (x y : Binary64) : Binary64 :=
  let e := x.exponent - y.exponent
  let sign := x.isNegative != y.isNegative
  if 0 ≤ e then nearest sign (x.significand * Nat.pow 2 e.toNat) y.significand
  else nearest sign x.significand (y.significand * Nat.pow 2 (-e).toNat)

/-- **The number nearest to a decimal** `± digits · 10 ^ e`.

An exponent far outside the range of the type decides the answer before any power of ten is
formed: the value of `digits` lies below `10 ^ places`. -/
def ofDecimal (negative : Bool) (digits : Nat) (places : Nat) (e : Int) : Binary64 :=
  if digits = 0 then ofMagnitude negative 0
  else if 400 + (places : Int) < e then infinity negative
  else if e + places < -400 then ofMagnitude negative 0
  else if 0 ≤ e then nearest negative (digits * Nat.pow 10 e.toNat) 1
  else nearest negative digits (Nat.pow 10 (-e).toNat)

/-- The magnitude of a finite number without its fraction. -/
def truncatedMagnitude (x : Binary64) : Nat :=
  if 0 ≤ x.exponent then x.significand * Nat.pow 2 x.exponent.toNat
  else x.significand / Nat.pow 2 (-x.exponent).toNat

/-- The integer part, held within a closed interval; no number gives zero. -/
def clampToInt (x : Binary64) (lo hi : Int) : Int :=
  if x.isNaN then 0
  else if x.isInfinite then (if x.isNegative then lo else hi)
  else
    let n : Int := x.truncatedMagnitude
    max lo (min hi (if x.isNegative then -n else n))

example : nearest false 1 10 = ⟨0x3FB999999999999A⟩ := by decide +kernel
example : (ofDecimal false 5 1 (-324)).magnitude = 1 := by decide +kernel
example : ofDecimal false 18 2 307 = infinity false := by decide +kernel
example : mul (ofNat 3) (nearest false 1 10) = ⟨0x3FD3333333333334⟩ := by decide +kernel

end Binary64

end OracleSql
