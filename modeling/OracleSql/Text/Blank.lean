import OracleSql.Text.Basic

/-!
# White space

`isBlank` is the Unicode property White_Space, twenty-five characters in all; `trim` removes
them from both ends of a text.
-/

namespace OracleSql.Text

/-- Closed ranges of the white-space characters. -/
def blankRanges : List (Nat × Nat) := [
  (0x9, 0xD), (0x20, 0x20), (0x85, 0x85), (0xA0, 0xA0), (0x1680, 0x1680), (0x2000, 0x200A),
  (0x2028, 0x2029), (0x202F, 0x202F), (0x205F, 0x205F), (0x3000, 0x3000)]

/-- White space in the sense of Unicode. -/
def isBlank (c : Char) : Bool :=
  inRanges blankRanges c.toNat

/-- **The core library's white space is white space here.** -/
theorem isBlank_of_isWhitespace {c : Char} (h : c.isWhitespace) : isBlank c := by
  simp only [Char.isWhitespace, Bool.or_eq_true, decide_eq_true_eq] at h
  rcases h with ((rfl | rfl) | rfl) | rfl <;> decide

/-- The text without white space at either end. -/
def trim (s : String) : String :=
  String.ofList (trimList isBlank s.toList)

/-- Whether nothing but white space is there. -/
def isAllBlank (s : String) : Bool :=
  s.toList.all isBlank

end OracleSql.Text
