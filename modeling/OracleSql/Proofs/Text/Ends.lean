import Mathlib.Data.List.DropRight
import OracleSql.Text.Blank

/-!
# Lengths and ends of texts

The length of a text in UTF-8 bytes is that of the core library (`utf8ByteSize_ofList`); no beginning
of a text is longer (`byteLength_le_of_isPrefix`).  A text is white space, the trimmed text and white
space again (`exists_eq_append_trimList`), and every end of the trimmed text ends without white space
as well (`rdropWhile_of_suffix`).
-/

namespace OracleSql.Text

/-! ### Lengths in bytes -/

theorem utf8ByteSize_ofList (cs : List Char) : (String.ofList cs).utf8ByteSize = byteLength cs := by
  induction cs with
  | nil => rfl
  | cons c cs ih =>
    rw [String.ofList_cons, String.utf8ByteSize_append, String.utf8ByteSize_singleton, ih]
    rfl

theorem byteLength_le_of_isPrefix {p q : List Char} (h : p <+: q) : byteLength p ≤ byteLength q := by
  obtain ⟨r, rfl⟩ := h
  rw [byteLength_append]
  exact Nat.le_add_right _ _

theorem eq_nil_of_byteLength_eq_zero {cs : List Char} (h : byteLength cs = 0) : cs = [] := by
  cases cs with
  | nil => rfl
  | cons c cs =>
    have := c.utf8Size_pos
    rw [byteLength_cons] at h
    omega

/-! ### White space at the ends -/

/-- The text without white space at its end. -/
def trimEnd (s : String) : String :=
  String.ofList (s.toList.rdropWhile isBlank)

theorem rdropWhile_append_of_forall {p : Char → Bool} {w : List Char} (hw : ∀ c ∈ w, p c = true)
    (cs : List Char) : (cs ++ w).rdropWhile p = cs.rdropWhile p := by
  rw [List.rdropWhile, List.reverse_append,
    List.dropWhile_append_of_pos fun c hc => hw c (List.mem_reverse.mp hc)]
  rfl

/-- An end of a text without white space at its end has none either. -/
theorem rdropWhile_of_suffix {p : Char → Bool} {cs rest : List Char} (h : rest <:+ cs)
    (hcs : cs.rdropWhile p = cs) : rest.rdropWhile p = rest := by
  obtain ⟨front, rfl⟩ := h
  rw [List.rdropWhile_eq_self_iff] at hcs ⊢
  intro hne
  rw [← List.getLast_append_of_ne_nil (by simp [hne]) hne (l := front)]
  exact hcs _

/-- A text is white space, the trimmed text and white space again. -/
theorem exists_eq_append_trimList (p : Char → Bool) (cs : List Char) :
    ∃ w, cs = cs.takeWhile p ++ (trimList p cs ++ w) ∧ (∀ c ∈ w, p c = true) := by
  refine ⟨(cs.dropWhile p).rtakeWhile p, ?_, fun c hc => List.mem_rtakeWhile_imp hc⟩
  rw [show trimList p cs = (cs.dropWhile p).rdropWhile p from rfl,
    List.rdropWhile_append_rtakeWhile, List.takeWhile_append_dropWhile]

theorem rdropWhile_trimList (p : Char → Bool) (cs : List Char) :
    (trimList p cs).rdropWhile p = trimList p cs :=
  List.rdropWhile_idempotent p (cs.dropWhile p)

end OracleSql.Text
