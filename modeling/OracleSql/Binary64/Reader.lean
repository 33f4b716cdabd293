import OracleSql.Binary64.Basic
import OracleSql.Text.Basic

/-!
# Reading decimal texts

`Binary64.ofText?` reads a number as it stands in a column list: a sign, digits with at most one
point, and an exponent, or one of the words for infinity and for no number.  The result is the
nearest double-precision number; beyond the largest one it is infinity.
-/

namespace OracleSql.Binary64

/-- The words that stand for no digits, in lower case. -/
def wordValue? (negative : Bool) (cs : List Char) : Option Binary64 :=
  let word := cs.map Char.toLower
  if word = "inf".toList ∨ word = "infinity".toList then some (infinity negative)
  else if word = "nan".toList then some nan
  else none

/-- The exponent after the digits: nothing, or `e` and an integer. -/
def exponentOf? : List Char → Option Int
  | [] => some 0
  | c :: cs => if c = 'e' ∨ c = 'E' then Text.intOfDigits? cs else none

/-- The number of digits with at most one point and an exponent. -/
def ofDigits? (negative : Bool) (cs : List Char) : Option Binary64 := do
  let whole := cs.takeWhile Char.isDigit
  let rest := cs.drop whole.length
  let (fraction, rest) := match rest with
    | '.' :: rest =>
      let fraction := rest.takeWhile Char.isDigit
      (fraction, rest.drop fraction.length)
    | _ => ([], rest)
  let digits ← Text.natOfDigits? (whole ++ fraction)
  let e ← exponentOf? rest
  return ofDecimal negative digits (whole ++ fraction).length (e - fraction.length)

/-- The digits or the word after a sign. -/
def ofUnsigned? (negative : Bool) (cs : List Char) : Option Binary64 :=
  ofDigits? negative cs <|> wordValue? negative cs

/-- **The number that a text writes.** -/
def ofText? (s : String) : Option Binary64 :=
  match s.toList with
  | '-' :: cs => ofUnsigned? true cs
  | '+' :: cs => ofUnsigned? false cs
  | cs => ofUnsigned? false cs

example : ofText? "-1.5e1" = some (nearest true 15 1) := by decide +kernel
example : ofText? "." = none := by decide +kernel
example : ofText? "1e999999999999" = some (infinity false) := by decide +kernel

end OracleSql.Binary64
