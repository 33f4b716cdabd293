import OracleSql.Text.CaseTable
import OracleSql.Text.CaseContext

/-!
# Upper and lower case of all scripts

`upper` and `lower` are the full case mappings of Unicode: one letter may become several
(`ß` becomes `SS`), and a capital sigma becomes `ς` at the end of a word and `σ` elsewhere
(`endsWord`).  Neither depends on a locale.
-/

namespace OracleSql.Text

/-- The letter that a run assigns to a code point, when the run contains it. -/
def CaseRun.imageOf? (r : CaseRun) (n : Nat) : Option Nat :=
  if r.first ≤ n ∧ n ≤ r.last ∧ (n - r.first) % r.step = 0 then some (r.image + (n - r.first))
  else none

/-- The case mapping given by runs and sequences; a letter in neither stays. -/
def mapCase (runs : List CaseRun) (sequences : List (Nat × List Nat)) (c : Char) : List Char :=
  match runs.findSome? (·.imageOf? c.toNat) with
  | some n => [Char.ofNat n]
  | none =>
    match sequences.lookup c.toNat with
    | some ns => ns.map Char.ofNat
    | none => [c]

/-- Upper case of one character. -/
def upperChar (c : Char) : List Char :=
  if c.toNat < 128 then [c.toUpper] else mapCase upperRuns upperSequences c

/-- Lower case of one character, whatever stands around it. -/
def lowerChar (c : Char) : List Char :=
  if c.toNat < 128 then [c.toLower] else mapCase lowerRuns lowerSequences c

/-- Whether the next letter, past all marks and signs between letters, has a case. -/
def meetsCased (cs : List Char) : Bool :=
  match cs.dropWhile isCaseIgnorable with
  | [] => false
  | c :: _ => isCased c

/-- A letter ends its word when a cased letter comes before it (`before` is read backwards) and
none follows. -/
def endsWord (before after : List Char) : Bool :=
  meetsCased before && !meetsCased after

/-- Lower case of a text whose preceding characters, last first, are given. -/
def lowerFrom (before : List Char) : List Char → List Char
  | [] => []
  | c :: cs =>
    (if c = 'Σ' then [if endsWord before cs then 'ς' else 'σ'] else lowerChar c)
      ++ lowerFrom (c :: before) cs

/-- **Upper case of a text.** -/
def upper (s : String) : String :=
  String.ofList (s.toList.flatMap upperChar)

/-- **Lower case of a text.** -/
def lower (s : String) : String :=
  String.ofList (lowerFrom [] s.toList)

example : upper "straße ﬁn" = "STRASSE FIN" := by decide +kernel
example : lower "ΑΣ ΣΑΣ. İ" = "ας σας. i̇" := by decide +kernel

end OracleSql.Text
