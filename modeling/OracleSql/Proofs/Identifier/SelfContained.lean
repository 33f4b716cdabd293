import OracleSql.Proofs.Identifier.References
import OracleSql.Proofs.Statement.Placeholders

/-!
# References bring no placeholders

A reference is written with dots, quotes and upper case around and in its segments.  When neither
the name nor a prefix holds a quote or a question mark, what is written is self-contained: the
segments have no characters but those of the name, upper case makes no marks (`isMark_upper`), and
the quotes around a reserved word are closed.
-/

namespace OracleSql

/-! ### Upper case makes letters -/

theorem toUpper_ofNat : ∀ n < 128, 64 ≤ (Char.ofNat n).toUpper.toNat ∨
    (Char.ofNat n).toUpper = Char.ofNat n := by
  decide +kernel

theorem upperRuns_image : ∀ r ∈ Text.upperRuns, 64 ≤ r.image := by decide +kernel

theorem upperSequences_image : ∀ r ∈ Text.upperSequences, ∀ n ∈ r.2, 64 ≤ n := by decide +kernel

/-- A number that is no character stands for the character of the number zero. -/
theorem toNat_ofNat_of_le {n : Nat} (h : 64 ≤ n) :
    64 ≤ (Char.ofNat n).toNat ∨ (Char.ofNat n).toNat = 0 := by
  by_cases hvalid : n.isValidChar
  · rw [show Char.ofNat n = Char.ofNatAux n hvalid from dif_pos hvalid]
    exact Or.inl h
  · rw [show Char.ofNat n = '\x00' from dif_neg hvalid]
    exact Or.inr rfl

/-- **Upper case brings no character before the letters**: one that is there in upper case has been
there before. -/
theorem eq_of_mem_upperChar {c d : Char} (hd : d ∈ Text.upperChar c) (hsmall : d.toNat < 64)
    (hzero : d.toNat ≠ 0) : d = c := by
  have himpossible {n : Nat} (hn : 64 ≤ n) (heq : d = Char.ofNat n) : d = c := by
    rcases toNat_ofNat_of_le hn with h | h <;> rw [← heq] at h
    · exact absurd hsmall (Nat.not_lt.mpr h)
    · exact absurd h hzero
  rw [Text.upperChar] at hd
  split at hd
  · next hascii =>
    have hupper := toUpper_ofNat c.toNat hascii
    rw [Char.ofNat_toNat, ← List.mem_singleton.mp hd] at hupper
    exact hupper.resolve_left (Nat.not_le.mpr hsmall)
  · rw [Text.mapCase] at hd
    split at hd
    · next n hn =>
      obtain ⟨r, hr, himage⟩ := List.exists_of_findSome?_eq_some hn
      rw [Text.CaseRun.imageOf?] at himage
      split at himage
      · cases himage
        exact himpossible (Nat.le_add_right_of_le (upperRuns_image r hr)) (List.mem_singleton.mp hd)
      · cases himage
    · split at hd
      · next ns hns =>
        obtain ⟨n, hn, heq⟩ := List.mem_map.mp hd
        obtain ⟨_, _, hsequences, _⟩ := List.lookup_eq_some_iff.mp hns
        refine himpossible (upperSequences_image (c.toNat, ns) ?_ n hn) heq.symm
        rw [hsequences]
        exact List.mem_append_right _ List.mem_cons_self
      · exact List.mem_singleton.mp hd

/-- **No letter comes into a class of characters before the letters** in upper case. -/
theorem eq_false_of_mem_upperChar {p : Char → Bool}
    (hp : ∀ d, p d = true → d.toNat < 64 ∧ d.toNat ≠ 0) {c d : Char} (h : p c = false)
    (hd : d ∈ Text.upperChar c) : p d = false := by
  rw [Bool.eq_false_iff]
  intro hclass
  obtain ⟨hsmall, hzero⟩ := hp d hclass
  rw [eq_of_mem_upperChar hd hsmall hzero, h] at hclass
  cases hclass

theorem toNat_of_isMark (d : Char) (h : isMark d = true) : d.toNat < 64 ∧ d.toNat ≠ 0 := by
  rw [isMark, Bool.or_eq_true, Bool.or_eq_true, beq_iff_eq, beq_iff_eq, beq_iff_eq] at h
  rcases h with (rfl | rfl) | rfl <;> decide

theorem unmarked_upper {s : String} (h : Unmarked s) : Unmarked (Text.upper s) := by
  intro d hd
  rw [Text.upper, String.toList_ofList] at hd
  obtain ⟨c, hc, hd⟩ := List.mem_flatMap.mp hd
  exact eq_false_of_mem_upperChar toNat_of_isMark (h c hc) hd

/-! ### What is written for a reference -/

theorem selfContained_wrapValue (c : Config) {s : String} (h : Unmarked s) :
    SelfContained (Identifier.wrapValue c s) := by
  rw [Identifier.wrapValue]
  split
  · exact .of_unmarked h
  · split
    · exact .quoted (unmarked_upper h)
    · split
      · exact .of_unmarked h
      · exact .of_unmarked (unmarked_upper h)

/-- The prefixes of a configuration hold no quotes and no question marks. -/
structure Config.Unmarked (c : Config) : Prop where
  tablePrefix : OracleSql.Unmarked c.tablePrefix
  schemaPrefix : ∀ schema ∈ c.schemaPrefix, OracleSql.Unmarked schema

/-- **What is written for references is self-contained.** -/
theorem Config.Unmarked.writes {c : Config} (h : c.Unmarked) :
    Identifier.Writes c (fun ch => isMark ch = false) SelfContained where
  composes := SelfContained.composes
  dot := by decide
  blank := by decide
  as := by decide
  segment _ := selfContained_wrapValue c
  tablePrefix := h.tablePrefix
  schemaPrefix := h.schemaPrefix

end OracleSql
