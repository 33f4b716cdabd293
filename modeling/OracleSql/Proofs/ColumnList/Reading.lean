import Mathlib.Data.List.DropRight
import OracleSql.Proofs.ColumnList.Written
import OracleSql.Proofs.Text.Reading

/-!
# Reading the parts of a column

Each reader of column lists on the text that is written for it, with any text behind.  A reader of
words stops at the first character of another class, so what has to be known of the text behind is
how it starts: `Follows` says what can stand behind a modifier, `Ends` what can stand behind a
column.

A value without quotes runs to the next colon or comma and is trimmed afterwards.  It takes the gap
before a comma with it, and all other readers leave it; `SkipsGap` covers both.
-/

namespace OracleSql.ColumnList

/-! ### Classes of characters -/

/-- A character of a value without quotes: no white space, no stop and no quote. -/
def isPlain (c : Char) : Bool :=
  !(Text.isBlank c || c == ':' || c == ',' || c == '\'')

/-- Only upper-case letters of ASCII have another character for lower case, so a class without
upper-case letters and one with all of them can be told from lower case. -/
theorem of_toLower {p : Char → Bool}
    (hupper : ∀ n < 128, p (Char.ofNat n).toLower = true → p (Char.ofNat n) = true) {c : Char}
    (h : p c.toLower = true) : p c = true := by
  by_cases hc : c.toNat < 128
  · exact Text.ofNat_cases (P := fun c => p c.toLower = true → p c = true) hupper hc h
  · rwa [Text.toLower_of_not_lt hc] at h

theorem isPlain_of_toLower {c : Char} (h : isPlain c.toLower = true) : isPlain c = true :=
  of_toLower (by decide +kernel) h

theorem isNameChar_of_toLower {c : Char} (h : isNameChar c.toLower = true) : isNameChar c = true :=
  of_toLower (by decide +kernel) h

theorem isAlpha_of_toLower {c : Char} (h : c.toLower.isAlpha = true) : c.isAlpha = true :=
  of_toLower (by decide +kernel) h

theorem isBlank_of_isGap {c : Char} (h : isGap c = true) : Text.isBlank c = true := by
  simp only [isGap, Bool.or_eq_true, decide_eq_true_eq] at h
  rcases h with ((rfl | rfl) | rfl) | rfl <;> decide

theorem not_isGap_of_not_isBlank {c : Char} (h : Text.isBlank c = false) : isGap c = false := by
  rw [Bool.eq_false_iff]
  intro hgap
  rw [isBlank_of_isGap hgap] at h
  cases h

theorem not_isAlpha_of_isDigit {c : Char} (h : c.isDigit = true) : c.isAlpha = false :=
  Text.ofNat_cases (P := fun c => c.isDigit = true → c.isAlpha = false) (by decide +kernel)
    (Text.isDigit_lt h) h

theorem isPlain_of_isDigit {c : Char} (h : c.isDigit = true) : isPlain c = true :=
  Text.ofNat_cases (P := fun c => c.isDigit = true → isPlain c = true) (by decide +kernel)
    (Text.isDigit_lt h) h

/-- **No white space in names**: no range of white space has a letter or a digit in it. -/
theorem not_isBlank_of_isNameChar {c : Char} (h : isNameChar c = true) :
    Text.isBlank c = false := by
  have hranges : ∀ r ∈ Text.blankRanges, ∀ k < 12, r.1 + k ≤ r.2 →
      isNameChar (Char.ofNat (r.1 + k)) = false := by decide +kernel
  have hwidth : ∀ r ∈ Text.blankRanges, r.2 < r.1 + 12 := by decide
  rw [Bool.eq_false_iff]
  intro hblank
  obtain ⟨r, hr, hin⟩ := List.any_eq_true.mp hblank
  rw [Bool.and_eq_true, decide_eq_true_eq, decide_eq_true_eq] at hin
  have hnot := hranges r hr (c.toNat - r.1) (by have := hwidth r hr; omega) (by omega)
  rw [Nat.add_sub_cancel' hin.1, Char.ofNat_toNat, h] at hnot
  cases hnot

theorem not_isBlank_of_isPlain {c : Char} (h : isPlain c = true) : Text.isBlank c = false := by
  simp only [isPlain, Bool.not_eq_true', Bool.or_eq_false_iff] at h
  exact h.1.1.1

theorem ne_of_isPlain {c : Char} (h : isPlain c = true) : c ≠ ':' ∧ c ≠ ',' ∧ c ≠ '\'' := by
  simp only [isPlain, Bool.not_eq_true', Bool.or_eq_false_iff, beq_eq_false_iff_ne] at h
  exact ⟨h.1.1.2, h.1.2, h.2⟩

/-! ### What stands behind -/

/-- What may stand behind a column: nothing, or another column after a comma. -/
inductive Ends : List Char → Prop
  | nil : Ends []
  | comma {gap : List Char} (hgap : Gap gap) (rest : List Char) : Ends (gap ++ ',' :: rest)

/-- What may stand behind a modifier: another modifier, or what may stand behind a column. -/
inductive Follows : List Char → Prop
  | colon (rest : List Char) : Follows (':' :: rest)
  | ends {rest : List Char} (h : Ends rest) : Follows rest

theorem Follows.head {rest : List Char} (h : Follows rest) :
    ∀ c ∈ rest.head?, isGap c = true ∨ c = ',' ∨ c = ':' := by
  intro c hc
  cases h with
  | colon => exact .inr (.inr (Option.some.inj hc).symm)
  | ends h =>
    cases h with
    | nil => cases hc
    | @comma gap hgap rest =>
      cases gap with
      | nil => exact .inr (.inl (Option.some.inj hc).symm)
      | cons d gap => exact .inl ((Option.some.inj hc) ▸ hgap d List.mem_cons_self)

/-- A class of characters of words ends with the word. -/
theorem Follows.head_not {rest : List Char} (h : Follows rest) {p : Char → Bool}
    (hgap : p ' ' = false ∧ p '\t' = false ∧ p '\r' = false ∧ p '\n' = false)
    (hcomma : p ',' = false) (hcolon : p ':' = false) : ∀ c ∈ rest.head?, p c = false := by
  intro c hc
  rcases h.head c hc with hc | rfl | rfl
  · simp only [isGap, Bool.or_eq_true, decide_eq_true_eq] at hc
    rcases hc with ((rfl | rfl) | rfl) | rfl
    · exact hgap.1
    · exact hgap.2.1
    · exact hgap.2.2.1
    · exact hgap.2.2.2
  · exact hcomma
  · exact hcolon

/-- The text, with the gap at its start or without it. -/
def SkipsGap (rest rest' : List Char) : Prop :=
  rest' = rest ∨ rest' = rest.dropWhile isGap

theorem SkipsGap.trans {a b c : List Char} (hab : SkipsGap a b) (hbc : SkipsGap b c) :
    SkipsGap a c := by
  rcases hab with rfl | rfl
  · exact hbc
  · rcases hbc with rfl | rfl
    · exact .inr rfl
    · exact .inr (List.dropWhile_idempotent _ _)

theorem dropWhile_isGap_append {gap : List Char} (hgap : Gap gap) {c : Char}
    (hc : isGap c = false) (rest : List Char) :
    (gap ++ c :: rest).dropWhile isGap = c :: rest := by
  rw [List.dropWhile_append_of_pos hgap, List.dropWhile_cons_of_neg (by simp [hc])]

theorem Ends.skipsGap {rest rest' : List Char} (h : Ends rest) (hskip : SkipsGap rest rest') :
    Ends rest' := by
  rcases hskip with rfl | rfl
  · exact h
  · cases h with
    | nil => exact .nil
    | comma hgap rest =>
      rw [dropWhile_isGap_append hgap (by decide)]
      exact .comma gap_nil rest

/-- **A comma is found behind a gap**, whether the gap is still there or not. -/
theorem comma?_skipsGap {before after : List Char} (hbefore : Gap before) (hafter : Gap after)
    {c : Char} (hc : isGap c = false) (rest : List Char) {rest' : List Char}
    (h : SkipsGap (before ++ ',' :: (after ++ c :: rest)) rest') :
    comma? rest' = some (c :: rest) := by
  have hdrop : rest'.dropWhile isGap = ',' :: (after ++ c :: rest) := by
    rcases h with rfl | rfl
    · exact dropWhile_isGap_append hbefore (by decide) _
    · rw [List.dropWhile_idempotent, dropWhile_isGap_append hbefore (by decide)]
  rw [comma?, hdrop]
  exact congrArg some (dropWhile_isGap_append hafter hc rest)

/-! ### Runs and keywords -/

theorem run?_append {p : Char → Bool} {w rest : List Char} (hne : w ≠ [])
    (hw : ∀ c ∈ w, p c = true) (hrest : ∀ c ∈ rest.head?, p c = false) :
    run? p (w ++ rest) = some (w, rest) := by
  obtain ⟨htake, hdrop⟩ := Text.takeWhile_append_eq hw hrest
  rw [run?, htake, hdrop, if_neg (by simpa using hne)]

/-- A keyword is a prefix of the text in lower case. -/
theorem keyword?_eq (ks cs : List Char) :
    keyword? ks cs
      = if ks.isPrefixOf (cs.map Char.toLower) then some (cs.drop ks.length) else none := by
  induction ks generalizing cs with
  | nil => rfl
  | cons k ks ih =>
    cases cs with
    | nil => rfl
    | cons c cs =>
      rw [keyword?, List.map_cons, List.isPrefixOf_cons_cons, List.length_cons, List.drop_succ_cons,
        ih]
      by_cases hk : k = c.toLower
      · rw [if_pos hk, beq_iff_eq.mpr hk, Bool.true_and]
      · rw [if_neg hk, beq_eq_false_iff_ne.mpr hk, Bool.false_and, if_neg Bool.false_ne_true]

theorem keyword?_spelled {word : String} {w : List Char} (hw : Spells word w) (ks rest : List Char) :
    keyword? ks (w ++ rest)
      = if ks.isPrefixOf (word.toList ++ rest.map Char.toLower) then some ((w ++ rest).drop ks.length)
        else none := by
  rw [keyword?_eq, List.map_append, hw]

theorem length_of_spells {word : String} {w : List Char} (hw : Spells word w) :
    w.length = word.toList.length := by
  rw [← hw, List.length_map]

theorem keyed?_spelled {α : Type} {key : String} {value? : List Char → Option (α × List Char)}
    {make : α → Modifier} {w rest rest' : List Char} {a : α} (hw : Spells key w)
    (hvalue : value? rest = some (a, rest')) :
    keyed? key value? make (w ++ rest) = some (make a, rest') := by
  have hprefix : key.toList.isPrefixOf (key.toList ++ rest.map Char.toLower) = true :=
    List.isPrefixOf_iff_prefix.mpr (List.prefix_append _ _)
  rw [keyed?, keyword?_spelled hw, if_pos hprefix, ← length_of_spells hw, List.drop_left]
  simp only [Option.bind_eq_bind, Option.bind_some, hvalue]
  rfl

theorem keyed?_other {α : Type} {key word : String} {value? : List Char → Option (α × List Char)}
    {make : α → Modifier} {w : List Char} (hw : Spells word w)
    (hother : ∀ rest, key.toList.isPrefixOf (word.toList ++ rest) = false) (rest : List Char) :
    keyed? key value? make (w ++ rest) = none := by
  rw [keyed?, keyword?_spelled hw, hother, if_neg Bool.false_ne_true]
  rfl

/-! ### Values -/

theorem quoted?_inQuotes {s : String} (hs : QuoteFree s) (rest : List Char) :
    quoted? (inQuotes s ++ rest) = some (s, rest) := by
  have hplain : ∀ c ∈ s.toList, decide (c ≠ '\'') = true :=
    fun c hc => decide_eq_true fun h => hs (h ▸ hc)
  have hquote : ∀ c ∈ ('\'' :: rest).head?, decide (c ≠ '\'') = false := by
    rintro c ⟨⟩
    decide
  have hcut := Text.takeWhile_append_eq hplain hquote
  rw [inQuotes, List.cons_append, List.append_assoc, List.singleton_append, quoted?, hcut.2, hcut.1,
    String.ofList_toList]

theorem quoted?_of_head {cs : List Char} (h : ∀ c ∈ cs.head?, c ≠ '\'') : quoted? cs = none := by
  unfold quoted?
  split
  · exact absurd rfl (h _ rfl)
  · rfl

/-- **A word without quotes is read back**, and the gap behind it is taken with it. -/
theorem bare?_append {w rest : List Char} (hne : w ≠ []) (hw : ∀ c ∈ w, isPlain c = true)
    (hrest : Follows rest) :
    bare? [':', ','] (w ++ rest) = some (String.ofList w, rest.dropWhile isGap) := by
  obtain ⟨gap, stop, hgap, hsplit, hdrop, hstop⟩ : ∃ gap stop, Gap gap ∧ rest = gap ++ stop ∧
      rest.dropWhile isGap = stop ∧ ∀ c ∈ stop.head?, (!([':', ','].contains c)) = false := by
    cases hrest with
    | colon rest => exact ⟨[], ':' :: rest, nofun, rfl, rfl, by rintro c ⟨⟩; decide⟩
    | ends h =>
      cases h with
      | nil => exact ⟨[], [], nofun, rfl, rfl, nofun⟩
      | @comma gap hgap rest =>
        exact ⟨gap, ',' :: rest, hgap, rfl, dropWhile_isGap_append hgap (by decide) rest,
          by rintro c ⟨⟩; decide⟩
  have hwords : ∀ c ∈ w ++ gap, (!([':', ','].contains c)) = true := by
    intro c hc
    have hstops : c ≠ ':' ∧ c ≠ ',' := by
      rcases List.mem_append.mp hc with hc | hc
      · exact ⟨(ne_of_isPlain (hw c hc)).1, (ne_of_isPlain (hw c hc)).2.1⟩
      · constructor <;> rintro rfl <;> exact absurd (hgap _ hc) (by decide)
    simp [hstops.1, hstops.2]
  have htrim : Text.trimList Text.isBlank (w ++ gap) = w :=
    Text.trimList_append hne
      (fun c hc => not_isBlank_of_isPlain (hw c (List.mem_of_mem_head? hc)))
      (fun c hc => not_isBlank_of_isPlain (hw c (List.mem_of_mem_getLast? hc)))
      (fun c hc => isBlank_of_isGap (hgap c hc))
  rw [hdrop, hsplit, ← List.append_assoc, bare?,
    run?_append (by simp [hne]) hwords hstop, Option.map_some]
  simp only [htrim]

/-! ### Numbers -/

theorem isDigit_of_mem_digits {n : Nat} {c : Char} (h : c ∈ digits n) : c.isDigit = true :=
  Text.isDigit_of_mem_toString h

theorem digits_ne_nil (n : Nat) : digits n ≠ [] := by
  rw [digits, Nat.toString_eq_ofList_toDigits, String.toList_ofList]
  exact Nat.toDigits_ne_nil

theorem run?_digits (n : Nat) {rest : List Char} (hrest : ∀ c ∈ rest.head?, c.isDigit = false) :
    run? Char.isDigit (digits n ++ rest) = some (digits n, rest) :=
  run?_append (digits_ne_nil n) (fun _ => isDigit_of_mem_digits) hrest

theorem size?_digits (n : UInt32) {rest : List Char} (hrest : ∀ c ∈ rest.head?, c.isDigit = false) :
    size? (digits n.toNat ++ rest) = some (n, rest) := by
  have hbound : n.toNat < Nat.pow 2 32 := n.toNat_lt
  rw [size?, run?_digits _ hrest]
  simp only [Option.bind_eq_bind, Option.bind_some, digits, Text.natOfDigits?_toString]
  rw [if_pos hbound, UInt32.ofNat_toNat]

theorem start?_digits (n : UInt64) {rest : List Char} (hrest : ∀ c ∈ rest.head?, c.isDigit = false) :
    start? (digits n.toNat ++ rest) = some (n, rest) := by
  have hbound : n.toNat < Nat.pow 2 64 := n.toNat_lt
  rw [start?, run?_digits _ hrest]
  simp only [Option.bind_eq_bind, Option.bind_some, digits, Text.natOfDigits?_toString]
  rw [if_pos hbound, UInt64.ofNat_toNat]

end OracleSql.ColumnList
