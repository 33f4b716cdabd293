/-!
# Plain operations on text

Text is a `String`; what is said about it is said about its list of characters.  This file
holds the operations the rest of the library shares: length in UTF-8 bytes, cutting at the first
occurrence of a pattern (`breakOn`), cutting away both ends (`trimList`), writing a character
twice (`doubled`), and the ASCII fold under which names are compared (`sameIgnoringCase`).
-/

namespace OracleSql.Text

def inRanges (ranges : List (Nat × Nat)) (n : Nat) : Bool :=
  ranges.any fun r => decide (r.1 ≤ n) && decide (n ≤ r.2)

/-- Length in UTF-8 bytes. -/
def byteLength : List Char → Nat
  | [] => 0
  | c :: cs => c.utf8Size + byteLength cs

@[simp] theorem byteLength_nil : byteLength [] = 0 := rfl

@[simp] theorem byteLength_cons (c : Char) (cs : List Char) :
    byteLength (c :: cs) = c.utf8Size + byteLength cs := rfl

@[simp] theorem byteLength_append (as bs : List Char) :
    byteLength (as ++ bs) = byteLength as + byteLength bs := by
  induction as with
  | nil => simp
  | cons a as ih => simp [ih, Nat.add_assoc]

/-- What follows `p` when `cs` starts with `p`, in `dropPrefix p cs`. -/
def dropPrefix : List Char → List Char → Option (List Char)
  | [], cs => some cs
  | _ :: _, [] => none
  | p :: ps, c :: cs => if p = c then dropPrefix ps cs else none

/-- **Cut at the first occurrence of a pattern**: what stands before it and what follows it. -/
def breakOn (pattern : List Char) : List Char → Option (List Char × List Char)
  | [] => (dropPrefix pattern []).map fun rest => ([], rest)
  | c :: cs =>
    match dropPrefix pattern (c :: cs) with
    | some rest => some ([], rest)
    | none => (breakOn pattern cs).map fun (before, after) => (c :: before, after)

/-- Remove the characters of a class from both ends. -/
def trimList (p : Char → Bool) (cs : List Char) : List Char :=
  ((cs.dropWhile p).reverse.dropWhile p).reverse

/-- Write every occurrence of `q` twice. -/
def doubled (q : Char) : List Char → List Char
  | [] => []
  | c :: cs => if c = q then q :: q :: doubled q cs else c :: doubled q cs

@[simp] theorem doubled_append (q : Char) (as bs : List Char) :
    doubled q (as ++ bs) = doubled q as ++ doubled q bs := by
  induction as with
  | nil => rfl
  | cons a as ih => by_cases h : a = q <;> simp [doubled, h, ih]

def double (q : Char) (s : String) : String :=
  String.ofList (doubled q s.toList)

/-! ### Letter case within ASCII -/

/-- Lower case of the ASCII letters; every other character is left alone. -/
def asciiLower (s : String) : String :=
  String.ofList (s.toList.map Char.toLower)

/-- Equality that does not distinguish upper and lower ASCII letters. -/
def sameIgnoringCase (s t : String) : Bool :=
  s.toList.map Char.toLower == t.toList.map Char.toLower

theorem sameIgnoringCase_iff {s t : String} :
    sameIgnoringCase s t = true ↔ asciiLower s = asciiLower t := by
  constructor
  · intro h
    have := eq_of_beq h
    simp [asciiLower, this]
  · intro h
    have := congrArg String.toList h
    simpa [asciiLower, sameIgnoringCase] using this

theorem sameIgnoringCase_refl (s : String) : sameIgnoringCase s s = true := by
  simp [sameIgnoringCase]

/-! ### Digits -/

def digitValue? (c : Char) : Option Nat :=
  if '0' ≤ c ∧ c ≤ '9' then some (c.toNat - '0'.toNat) else none

/-- The value of a hexadecimal digit of either case. -/
def hexValue? (c : Char) : Option Nat :=
  if '0' ≤ c ∧ c ≤ '9' then some (c.toNat - '0'.toNat)
  else if 'a' ≤ c ∧ c ≤ 'f' then some (c.toNat - 'a'.toNat + 10)
  else if 'A' ≤ c ∧ c ≤ 'F' then some (c.toNat - 'A'.toNat + 10)
  else none

/-- The number that a run of digits writes, most significant first; `none` on any other
character. -/
def digitsValue? : List Char → Nat → Option Nat
  | [], acc => some acc
  | c :: cs, acc => do digitsValue? cs (acc * 10 + (← digitValue? c))

/-- The number written by a non-empty run of ASCII digits. -/
def natOfDigits? (cs : List Char) : Option Nat :=
  if cs.isEmpty then none else digitsValue? cs 0

/-- The integer written by an optional sign and a non-empty run of ASCII digits. -/
def intOfDigits? : List Char → Option Int
  | '-' :: cs => (natOfDigits? cs).map fun n => -Int.ofNat n
  | '+' :: cs => (natOfDigits? cs).map Int.ofNat
  | cs => (natOfDigits? cs).map Int.ofNat

/-- The integer of 64 bits that a text writes. -/
def int64OfText? (s : String) : Option Int64 := do
  let n ← intOfDigits? s.toList
  if -Int.pow 2 63 ≤ n ∧ n < Int.pow 2 63 then some (Int64.ofInt n) else none

end OracleSql.Text
