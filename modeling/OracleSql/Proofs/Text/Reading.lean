import OracleSql.Proofs.Text.Ends

/-!
# Reading what has been written

The readers of `Text/Basic.lean` on texts that have been put together: `dropPrefix_append`,
`breakOn_append`, `takeWhile_append_eq` and `trimList_append` take a text apart where it was
joined, and `natOfDigits?_toString` and `intOfDigits?_toString` read a number that the core library
has written.  In the other direction, what is cut out of a text has no other characters than the
text (`mem_of_breakOn`, `mem_of_mem_trimList`, `mem_of_mem_splitOn`), and what a text has from its
parts it has from a list of parts with a text between them (`Composes.intercalate`).
-/

namespace OracleSql.Text

/-! ### Parts of a text -/

theorem dropPrefix_append (p cs : List Char) : dropPrefix p (p ++ cs) = some cs := by
  induction p with
  | nil => rfl
  | cons c p ih => rw [List.cons_append, dropPrefix, if_pos rfl, ih]

theorem dropPrefix_cons_of_ne {p c : Char} (h : p ≠ c) (ps cs : List Char) :
    dropPrefix (p :: ps) (c :: cs) = none := by
  rw [dropPrefix, if_neg h]

/-- **A text is cut at the first place where the pattern can start**, if the part before it lacks
the pattern's first character. -/
theorem breakOn_append {p : Char} {ps : List Char} :
    ∀ (before after : List Char), p ∉ before →
      breakOn (p :: ps) (before ++ (p :: ps ++ after)) = some (before, after) := by
  intro before after
  induction before with
  | nil =>
    intro _
    have h := dropPrefix_append (p :: ps) after
    rw [List.cons_append] at h ⊢
    rw [List.nil_append, breakOn, h]
  | cons c before ih =>
    intro h
    rw [List.mem_cons, not_or] at h
    rw [List.cons_append, breakOn, dropPrefix_cons_of_ne h.1, ih h.2]
    rfl

theorem eq_of_dropPrefix {p cs rest : List Char} (h : dropPrefix p cs = some rest) :
    cs = p ++ rest := by
  induction p generalizing cs with
  | nil =>
    cases h
    rfl
  | cons d p ih =>
    cases cs with
    | nil => cases h
    | cons e cs =>
      rw [dropPrefix] at h
      split at h
      · next heq => rw [ih h, heq, List.cons_append]
      · cases h

/-- **A cut takes out the pattern and nothing else.** -/
theorem eq_of_breakOn {p cs before after : List Char}
    (h : breakOn p cs = some (before, after)) : cs = before ++ (p ++ after) := by
  induction cs generalizing before with
  | nil =>
    rw [breakOn, Option.map_eq_some_iff] at h
    obtain ⟨rest, hrest, heq⟩ := h
    cases heq
    rw [List.nil_append]
    exact eq_of_dropPrefix hrest
  | cons d cs ih =>
    rw [breakOn] at h
    split at h
    · next rest hrest =>
      cases h
      rw [List.nil_append]
      exact eq_of_dropPrefix hrest
    · rw [Option.map_eq_some_iff] at h
      obtain ⟨⟨start, rest⟩, hcut, heq⟩ := h
      cases heq
      rw [ih hcut, List.cons_append]

/-- Neither side of a cut has characters of its own. -/
theorem mem_of_breakOn {p cs before after : List Char}
    (h : breakOn p cs = some (before, after)) {c : Char} (hc : c ∈ before ∨ c ∈ after) :
    c ∈ cs := by
  rw [eq_of_breakOn h, List.mem_append, List.mem_append]
  exact hc.imp_right Or.inr

/-- Only characters of the class are cut away, and only at the ends. -/
theorem exists_trimList (p : Char → Bool) (cs : List Char) :
    ∃ before after, cs = before ++ (trimList p cs ++ after) ∧ (∀ c ∈ before, p c = true) ∧
      ∀ c ∈ after, p c = true := by
  obtain ⟨after, hcs, hafter⟩ := exists_eq_append_trimList p cs
  exact ⟨cs.takeWhile p, after, hcs, List.all_eq_true.mp List.all_takeWhile, hafter⟩

theorem mem_of_mem_trimList {p : Char → Bool} {cs : List Char} {c : Char}
    (h : c ∈ trimList p cs) : c ∈ cs := by
  obtain ⟨before, after, hcs, _, _⟩ := exists_trimList p cs
  rw [hcs]
  exact List.mem_append_right _ (List.mem_append_left _ h)

theorem mem_of_mem_splitOn {separator : Char} {cs part : List Char}
    (h : part ∈ cs.splitOn separator) {c : Char} (hc : c ∈ part) : c ∈ cs := by
  induction cs generalizing part with
  | nil =>
    rw [List.splitOn_nil, List.mem_singleton] at h
    rw [h] at hc
    exact hc
  | cons d cs ih =>
    rw [List.splitOn_cons_eq_if_modifyHead] at h
    split at h
    · rcases List.mem_cons.mp h with rfl | h
      · cases hc
      · exact List.mem_cons_of_mem _ (ih h hc)
    · cases hparts : cs.splitOn separator with
      | nil => exact absurd hparts (List.splitOn_ne_nil _ _)
      | cons first rest =>
        rw [hparts, List.modifyHead_cons] at h
        rw [hparts] at ih
        rcases List.mem_cons.mp h with rfl | h
        · rcases List.mem_cons.mp hc with rfl | hc
          · exact List.mem_cons_self
          · exact List.mem_cons_of_mem _ (ih List.mem_cons_self hc)
        · exact List.mem_cons_of_mem _ (ih (List.mem_cons_of_mem _ h) hc)

theorem not_mem_of_mem_splitOn {separator : Char} {cs part : List Char}
    (h : part ∈ cs.splitOn separator) : separator ∉ part := by
  induction cs generalizing part with
  | nil =>
    rw [List.splitOn_nil, List.mem_singleton] at h
    rw [h]
    exact List.not_mem_nil
  | cons d cs ih =>
    rw [List.splitOn_cons_eq_if_modifyHead] at h
    split at h
    · rcases List.mem_cons.mp h with rfl | h
      · exact List.not_mem_nil
      · exact ih h
    · next hne =>
      cases hparts : cs.splitOn separator with
      | nil => exact absurd hparts (List.splitOn_ne_nil _ _)
      | cons first rest =>
        rw [hparts, List.modifyHead_cons] at h
        rw [hparts] at ih
        rcases List.mem_cons.mp h with rfl | h
        · rw [List.mem_cons, not_or]
          exact ⟨fun heq => hne (by rw [heq, beq_self_eq_true]), ih List.mem_cons_self⟩
        · exact ih (List.mem_cons_of_mem _ h)

/-- Every character of a text is in one of its parts, or separates them. -/
theorem eq_or_exists_mem_splitOn {separator : Char} {cs : List Char} {c : Char} (h : c ∈ cs) :
    c = separator ∨ ∃ part ∈ cs.splitOn separator, c ∈ part := by
  induction cs with
  | nil => cases h
  | cons d cs ih =>
    rw [List.splitOn_cons_eq_if_modifyHead]
    split
    · next heq =>
      rcases List.mem_cons.mp h with rfl | h
      · exact .inl (beq_iff_eq.mp heq)
      · exact (ih h).imp_right fun ⟨part, hpart, hc⟩ => ⟨part, List.mem_cons_of_mem _ hpart, hc⟩
    · cases hparts : cs.splitOn separator with
      | nil => exact absurd hparts (List.splitOn_ne_nil _ _)
      | cons first rest =>
        rw [List.modifyHead_cons]
        rw [hparts] at ih
        rcases List.mem_cons.mp h with rfl | h
        · exact .inr ⟨_, List.mem_cons_self, List.mem_cons_self⟩
        · refine (ih h).imp_right fun ⟨part, hpart, hc⟩ => ?_
          rcases List.mem_cons.mp hpart with rfl | hpart
          · exact ⟨_, List.mem_cons_self, List.mem_cons_of_mem _ hc⟩
          · exact ⟨part, List.mem_cons_of_mem _ hpart, hc⟩

/-- **A run of characters of a class is taken whole**, if what follows is of another class. -/
theorem takeWhile_append_eq {p : Char → Bool} {w rest : List Char} (hw : ∀ c ∈ w, p c = true)
    (hrest : ∀ c ∈ rest.head?, p c = false) :
    (w ++ rest).takeWhile p = w ∧ (w ++ rest).dropWhile p = rest := by
  rw [List.takeWhile_append_of_pos hw, List.dropWhile_append_of_pos hw]
  cases rest with
  | nil => exact ⟨List.append_nil w, rfl⟩
  | cons c rest =>
    have hc : ¬p c = true := by rw [hrest c rfl]; exact Bool.false_ne_true
    rw [List.takeWhile_cons_of_neg hc, List.dropWhile_cons_of_neg hc, List.append_nil]
    exact ⟨rfl, rfl⟩

/-- What is cut away behind a word is cut away whole. -/
theorem trimList_append {p : Char → Bool} {w gap : List Char} (hne : w ≠ [])
    (hfirst : ∀ c ∈ w.head?, p c = false) (hlast : ∀ c ∈ w.getLast?, p c = false)
    (hgap : ∀ c ∈ gap, p c = true) : trimList p (w ++ gap) = w := by
  have hdrop {v : List Char} (hv : ∀ c ∈ v.head?, p c = false) : v.dropWhile p = v :=
    (takeWhile_append_eq (List.forall_mem_nil _) hv).2
  have hhead : ∀ c ∈ (w ++ gap).head?, p c = false := by
    obtain ⟨c, w, rfl⟩ := List.exists_cons_of_ne_nil hne
    exact hfirst
  rw [trimList, hdrop hhead, List.reverse_append,
    List.dropWhile_append_of_pos fun c hc => hgap c (List.mem_reverse.mp hc),
    hdrop (by rwa [List.head?_reverse]), List.reverse_reverse]

/-- A property that a text has when its parts have it. -/
structure Composes (P : String → Prop) : Prop where
  empty : P ""
  append : ∀ s t, P s → P t → P (s ++ t)

theorem Composes.intercalate {P : String → Prop} (hP : Composes P) {separator : String}
    {parts : List String} (hseparator : P separator) (h : ∀ t ∈ parts, P t) :
    P (separator.intercalate parts) := by
  induction parts with
  | nil =>
    rw [String.intercalate_nil]
    exact hP.empty
  | cons s parts ih =>
    have hs := h s List.mem_cons_self
    cases parts with
    | nil =>
      rw [String.intercalate_singleton]
      exact hs
    | cons t parts =>
      rw [String.intercalate_cons_cons]
      exact hP.append _ _ (hP.append _ _ hs hseparator)
        (ih fun u hu => h u (List.mem_cons_of_mem _ hu))

/-! ### Numbers in decimal -/

/-- What holds of the ASCII characters by their numbers holds of every one of them. -/
theorem ofNat_cases {P : Char → Prop} (h : ∀ n < 128, P (Char.ofNat n)) {c : Char}
    (hc : c.toNat < 128) : P c := by
  have hP := h c.toNat hc
  rwa [Char.ofNat_toNat] at hP

/-- Only letters of ASCII have another character for lower case. -/
theorem toLower_of_not_lt {c : Char} (h : ¬ c.toNat < 128) : c.toLower = c := by
  refine dif_neg ?_
  rintro ⟨-, hle⟩
  have hle : c.toNat ≤ 'Z'.toNat := hle
  exact h (Nat.lt_of_le_of_lt hle (by decide))

theorem isDigit_lt {c : Char} (h : c.isDigit = true) : c.toNat < 128 := by
  rw [Char.isDigit, Bool.and_eq_true, decide_eq_true_eq, decide_eq_true_eq] at h
  exact Nat.lt_of_le_of_lt h.2 (by decide)

theorem digitValue?_of_isDigit {c : Char} (h : c.isDigit = true) :
    digitValue? c = some (c.toNat - '0'.toNat) := by
  have hc : '0' ≤ c ∧ c ≤ '9' := by
    rw [Char.isDigit, Bool.and_eq_true, decide_eq_true_eq, decide_eq_true_eq] at h
    exact h
  rw [digitValue?, if_pos hc]

/-- On digits the reader agrees with the core library's, which takes any characters for digits. -/
theorem digitsValue?_of_isDigit : ∀ (cs : List Char) (n : Nat), (∀ c ∈ cs, c.isDigit = true) →
    digitsValue? cs n = some (Nat.ofDigitChars 10 cs n) := by
  intro cs
  induction cs with
  | nil => intro n _; simp [digitsValue?]
  | cons c cs ih =>
    intro n h
    have hc := digitValue?_of_isDigit (h c List.mem_cons_self)
    rw [digitsValue?, hc, Nat.ofDigitChars_cons, Nat.mul_comm 10 n]
    exact ih _ fun d hd => h d (List.mem_cons_of_mem c hd)

theorem isDigit_of_mem_toString {n : Nat} {c : Char} (h : c ∈ (toString n).toList) :
    c.isDigit = true := by
  rw [Nat.toString_eq_ofList_toDigits, String.toList_ofList] at h
  exact Nat.isDigit_of_mem_toDigits (by decide) (by decide) h

theorem natOfDigits?_toString (n : Nat) : natOfDigits? (toString n).toList = some n := by
  have hd := digitsValue?_of_isDigit (toString n).toList 0 fun c hc => isDigit_of_mem_toString hc
  have hne : (toString n).toList.isEmpty = false := by
    simp [Nat.toDigits_ne_nil]
  rw [natOfDigits?, hne, if_neg (by simp), hd, Nat.toString_eq_ofList_toDigits,
    String.toList_ofList, Nat.ofDigitChars_ten_toDigits]

theorem toString_negSucc (n : Nat) :
    (toString (Int.negSucc n)).toList = '-' :: (toString (n + 1)).toList := by
  change ("-" ++ toString (n + 1)).toList = _
  rw [String.toList_append]
  rfl

theorem intOfDigits?_toString (n : Int) : intOfDigits? (toString n).toList = some n := by
  cases n with
  | ofNat n =>
    change intOfDigits? (toString n).toList = _
    have hdigits := fun c hc => isDigit_of_mem_toString (n := n) (c := c) hc
    unfold intOfDigits?
    split
    · next cs heq => exact absurd (hdigits '-' (heq ▸ List.mem_cons_self)) (by decide)
    · next cs heq => exact absurd (hdigits '+' (heq ▸ List.mem_cons_self)) (by decide)
    · rw [natOfDigits?_toString]
      rfl
  | negSucc n =>
    rw [toString_negSucc, intOfDigits?, natOfDigits?_toString]
    rfl

theorem int64OfText?_toString (n : Int64) : int64OfText? (toString n.toInt) = some n := by
  have hbounds : -Int.pow 2 63 ≤ n.toInt ∧ n.toInt < Int.pow 2 63 := ⟨n.le_toInt, n.toInt_lt⟩
  rw [int64OfText?, intOfDigits?_toString]
  simp only [Option.bind_eq_bind, Option.bind_some]
  rw [if_pos hbounds, Int64.ofInt_toInt]

theorem isDigit_or_eq_of_mem_toString {n : Int} {c : Char} (h : c ∈ (toString n).toList) :
    c.isDigit = true ∨ c = '-' := by
  cases n with
  | ofNat n => exact .inl (isDigit_of_mem_toString (n := n) h)
  | negSucc n =>
    rw [toString_negSucc, List.mem_cons] at h
    exact h.symm.imp_left isDigit_of_mem_toString

end OracleSql.Text
