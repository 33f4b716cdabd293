import OracleSql.Json.Basic
import OracleSql.Text.Basic

/-!
# Numbers in JSON texts

A number without fraction and exponent that fits 64 bits, signed or unsigned, is an integer.  Any
other is a double-precision number, and it is read in two roundings: the leading digits that fit
64 bits give a significand, and one multiplication or division by a power of ten follows.  Digits
of the fraction beyond the significand do not count.  A number too large for the type is refused.
-/

namespace OracleSql.Json

/-- The digits read so far. -/
structure Scanned where
  significand : Nat
  exponent : Int
  /-- Whether a digit has been met that the significand could not take. -/
  full : Bool

namespace Scanned

/-- Whether a significand can take a further digit. -/
def fits (s : Scanned) (digit : Nat) : Bool :=
  !s.full && decide (s.significand * 10 + digit < Nat.pow 2 64)

/-- Take a digit before the point: one that does not fit raises the exponent. -/
def takeInteger (s : Scanned) (digit : Nat) : Scanned :=
  if s.fits digit then { s with significand := s.significand * 10 + digit }
  else { s with exponent := s.exponent + 1, full := true }

/-- Take a digit after the point: from the first that does not fit, none counts. -/
def takeFraction (s : Scanned) (digit : Nat) : Scanned :=
  if s.fits digit then
    { s with significand := s.significand * 10 + digit, exponent := s.exponent - 1 }
  else { s with full := true }

end Scanned

def digitValues (cs : List Char) : List Nat :=
  cs.filterMap Text.digitValue?

def powerOfTen (n : Nat) : Binary64 :=
  Binary64.nearest false (Nat.pow 10 n) 1

/-- Multiply or divide by a power of ten; a division by more than `1e308` goes in steps. -/
def scaleByTen : Nat → Binary64 → Int → Option Binary64
  | 0, x, _ => some x
  | fuel + 1, x, e =>
    if e.natAbs ≤ 308 then
      if 0 ≤ e then
        let y := x.mul (powerOfTen e.natAbs)
        if y.isInfinite then none else some y
      else some (x.div (powerOfTen e.natAbs))
    else if x.isZero then some x
    else if 0 ≤ e then none
    else scaleByTen fuel (x.div (powerOfTen 308)) (e + 308)

/-- The number `± significand · 10 ^ exponent`. -/
def floatOfParts (negative : Bool) (significand : Nat) (exponent : Int) : Option Json :=
  (scaleByTen 4 (Binary64.ofNat significand) exponent).map fun x =>
    float (if negative then x.neg else x)

/-- The integer of a significand and a sign, or a double-precision number where it has no 64-bit
form; a negative zero is not an integer either. -/
def ofInteger (negative : Bool) (significand : Nat) : Json :=
  if negative then
    if 0 < significand ∧ significand ≤ Nat.pow 2 63 then int (-(significand : Int))
    else float (Binary64.ofNat significand).neg
  else int significand

/-- The exponent part of a number: nothing, or `e`, a sign and digits. -/
def exponentPart? : List Char → Option (Option Int)
  | [] => some none
  | c :: cs =>
    if c = 'e' ∨ c = 'E' then (Text.intOfDigits? cs).map some
    else none

/-- The fraction part of a number: nothing, or a point and at least one digit; and what follows. -/
def fractionPart? : List Char → Option (List Char × List Char)
  | '.' :: cs =>
    let digits := cs.takeWhile Char.isDigit
    if digits.isEmpty then none else some (digits, cs.drop digits.length)
  | cs => some ([], cs)

/-- **The value of a number**, given as all its characters. -/
def numberOfText? (cs : List Char) : Option Json := do
  let (negative, cs) := match cs with
    | '-' :: rest => (true, rest)
    | _ => (false, cs)
  let whole := cs.takeWhile Char.isDigit
  if whole.isEmpty ∨ whole.head? = some '0' ∧ 1 < whole.length then none
  let (fraction, rest) ← fractionPart? (cs.drop whole.length)
  let exponent ← exponentPart? rest
  let s := (digitValues whole).foldl Scanned.takeInteger ⟨0, 0, false⟩
  if fraction.isEmpty ∧ exponent.isNone ∧ !s.full then return ofInteger negative s.significand
  let s' := if fraction.isEmpty then s
    else (digitValues fraction).foldl Scanned.takeFraction { s with full := false }
  let e := exponent.getD 0
  if Nat.pow 2 31 ≤ e.natAbs then
    if 0 < e ∧ s'.significand ≠ 0 then none
    else return float (Binary64.ofMagnitude negative 0)
  floatOfParts negative s'.significand (s'.exponent + e)

end OracleSql.Json
