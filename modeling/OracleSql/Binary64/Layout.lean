import OracleSql.Binary64.Shortest

/-!
# How a number is laid out

The digits of a number are settled by `shortest`; a `Layout` says how they are written: which
exponents are positional and what marks a whole number.  The formats of this library are values of
it, kept where the output is written.  An exponent always carries its sign and is never padded.
-/

namespace OracleSql.Binary64

/-- The decisions of a format on the text of a number. -/
structure Layout where
  /-- Whether a value halfway between the digits `n` and `n + 1` is written with `n + 1`. -/
  tieUp : Nat → Bool
  /-- Whether a number whose leading digit has this exponent is written without an exponent. -/
  positional : Int → Bool
  /-- What ends a positional number without a fraction. -/
  wholeEnd : String
  infinity : String
  nan : String

/-- The digits with the point placed by the exponent and zeros filled in. -/
def positionalText (wholeEnd : String) (d : Decimal) : String :=
  let cs := d.characters
  if 0 ≤ d.exponent then
    String.ofList (cs ++ List.replicate d.exponent.toNat '0') ++ wholeEnd
  else
    let places := (-d.exponent).toNat
    if places < cs.length then
      String.ofList (cs.take (cs.length - places)) ++ "."
        ++ String.ofList (cs.drop (cs.length - places))
    else "0." ++ String.ofList (List.replicate (places - cs.length) '0' ++ cs)

/-- One digit before the point, the others after it, and the exponent of the first. -/
def exponentText (d : Decimal) : String :=
  let cs := d.characters
  let e := d.scale
  String.ofList (cs.take 1)
    ++ (if cs.length = 1 then "" else "." ++ String.ofList (cs.drop 1))
    ++ (if 0 ≤ e then "e+" else "e-")
    ++ toString e.natAbs

def Layout.render (l : Layout) (x : Binary64) : String :=
  if x.isNaN then l.nan
  else
    let sign := if x.isNegative then "-" else ""
    if x.isInfinite then sign ++ l.infinity
    else if x.isZero then sign ++ "0" ++ l.wholeEnd
    else
      let d := shortest l.tieUp x
      sign ++ (if l.positional d.scale then positionalText l.wholeEnd d
               else exponentText d)

end OracleSql.Binary64
