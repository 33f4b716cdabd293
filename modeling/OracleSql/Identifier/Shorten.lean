import OracleSql.Compile

/-!
# Shortening of generated names

A name longer than the limit is cut one character at a time, always at the end of its longest
segment between underscores, and of the first of those that are equally long.  Segments keep two
characters as long as a longer one is left, and one after that; a name with too many segments to
fit even so is cut off at the limit and loses the underscores at its end.
-/

namespace OracleSql.Identifier

open Text

/-- The length of the longest segment. -/
def longestLength (parts : List (List Char)) : Nat :=
  (parts.map List.length).foldr max 0

/-- Cut the last character of the first segment of length `n`. -/
def cutFirst (n : Nat) : List (List Char) → List (List Char)
  | [] => []
  | p :: ps => if p.length = n then p.dropLast :: ps else p :: cutFirst n ps

/-- The segments joined by underscores. -/
def joinParts (parts : List (List Char)) : List Char :=
  ['_'].intercalate parts

/-- The number of characters of all segments. -/
def partsLength (parts : List (List Char)) : Nat :=
  parts.flatten.length

theorem partsLength_cutFirst_longest {parts : List (List Char)} (h : 0 < longestLength parts) :
    partsLength (cutFirst (longestLength parts) parts) + 1 = partsLength parts := by
  suffices key : ∀ (n : Nat) (ps : List (List Char)), 0 < n → (∃ p ∈ ps, p.length = n) →
      partsLength (cutFirst n ps) + 1 = partsLength ps by
    refine key _ _ h ?_
    clear key
    induction parts with
    | nil => simp [longestLength] at h
    | cons p ps ih =>
      by_cases hp : longestLength ps ≤ p.length
      · exact ⟨p, by simp, by simp [longestLength] at hp ⊢; omega⟩
      · have hl : longestLength (p :: ps) = longestLength ps := by
          simp [longestLength] at hp ⊢; omega
        obtain ⟨q, hq, hlen⟩ := ih (by omega)
        exact ⟨q, by simp [hq], by rw [hl, hlen]⟩
  intro n ps hn hex
  induction ps with
  | nil => simp at hex
  | cons p ps ih =>
    by_cases hp : p.length = n
    · simp [cutFirst, hp, partsLength]; omega
    · have : ∃ q ∈ ps, q.length = n := by
        obtain ⟨q, hq, hlen⟩ := hex
        rcases List.mem_cons.1 hq with rfl | hq
        · exact absurd hlen hp
        · exact ⟨q, hq, hlen⟩
      have := ih this
      simp [cutFirst, hp, partsLength] at this ⊢; omega

/-- Cut longest segments as long as the name exceeds the limit and a segment has more than
`floor` characters. -/
def cutTo (floor limit : Nat) (parts : List (List Char)) : List (List Char) :=
  if limit < byteLength (joinParts parts) ∧ floor < longestLength parts then
    cutTo floor limit (cutFirst (longestLength parts) parts)
  else parts
termination_by partsLength parts
decreasing_by
  have := @partsLength_cutFirst_longest parts (by omega)
  omega

/-- The name with its segments cut as far as they go. -/
def squeeze (limit : Nat) (name : List Char) : List Char :=
  joinParts (cutTo 1 limit (cutTo 2 limit (name.splitOn '_')))

/-- The longest beginning of at most `limit` bytes. -/
def takeBytes : Nat → List Char → List Char
  | _, [] => []
  | limit, c :: cs =>
    if c.utf8Size ≤ limit then c :: takeBytes (limit - c.utf8Size) cs else []

/-- The text without underscores at its end. -/
def dropUnderscores (cs : List Char) : List Char :=
  (cs.reverse.dropWhile (· = '_')).reverse

/-- **The name in at most `limit` bytes.** -/
def shorten (limit : Nat) (name : String) : String :=
  let cs := squeeze limit name.toList
  String.ofList (if byteLength cs ≤ limit then cs else dropUnderscores (takeBytes limit cs))

/-- The shortened name, with a warning when it had to be cut off. -/
def shortened (limit : Nat) (name : String) : Compile String := do
  let cs := squeeze limit name.toList
  Compile.warnIf (decide (limit < byteLength cs)) (.nameTruncated (String.ofList cs) limit)
  return shorten limit name

@[simp] theorem result_shortened (limit : Nat) (name : String) :
    (shortened limit name).result = .ok (shorten limit name) := by
  simp [shortened, bind]

example : shorten 30 "customer_accounts_primary_email_idx" = "custom_accoun_primar_email_idx" := by
  decide +kernel
example : shorten 8 "ab_cd_ef_gh" = "a_c_e_gh" := by decide +kernel
example : shorten 4 "a_b_c_d_e_f" = "a_b" := by decide +kernel

end OracleSql.Identifier
