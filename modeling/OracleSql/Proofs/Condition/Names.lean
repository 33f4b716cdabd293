import OracleSql.Proofs.Condition.Fragments
import OracleSql.Proofs.Identifier.References
import OracleSql.Proofs.Text.Case

/-!
# Names in a condition

A name of dotted words (`Dotted`) is written without parentheses and without keywords: a segment
that is a reserved word, and so each of `and`, `or` and `between`, is quoted, and any other is a
word that no keyword is.  So what is written for a column never cuts a row (`quiet_wrap`).
-/

namespace OracleSql

/-- The characters of names: those of words, and the dot. -/
def isNameChar (c : Char) : Bool :=
  isWordChar c || c == '.'

def Worded (s : String) : Prop :=
  ∀ c ∈ s.toList, isWordChar c = true

def Dotted (s : String) : Prop :=
  ∀ c ∈ s.toList, isNameChar c = true

instance (s : String) : Decidable (Worded s) :=
  List.decidableBAll _ _

instance (s : String) : Decidable (Dotted s) :=
  List.decidableBAll _ _

/-! ### Characters -/

theorem toNat_lt_of_isNameChar {c : Char} (h : isNameChar c = true) : c.toNat < 128 := by
  rw [isNameChar, isWordChar, Bool.or_eq_true, Bool.or_eq_true, beq_iff_eq, beq_iff_eq] at h
  rcases h with (h | rfl) | rfl
  · delta Char.isAlphanum Char.isAlpha Char.isUpper Char.isLower Char.isDigit at h
    simp only [Bool.or_eq_true, Bool.and_eq_true, decide_eq_true_eq, UInt32.le_iff_toNat_le,
      ge_iff_le] at h
    have hchar : c.toNat = c.val.toNat := rfl
    have hupper : 'Z'.val.toNat = 90 := rfl
    have hlower : 'z'.val.toNat = 122 := rfl
    have hdigit : '9'.val.toNat = 57 := rfl
    omega
  · decide
  · decide

theorem isNameChar_of_isWordChar {c : Char} (h : isWordChar c = true) : isNameChar c = true := by
  rw [isNameChar, h, Bool.true_or]

/-- What holds of the characters of names is checked on ASCII. -/
theorem forall_isNameChar {p : Char → Bool}
    (h : ∀ n < 128, isNameChar (Char.ofNat n) = true → p (Char.ofNat n) = true) {c : Char}
    (hc : isNameChar c = true) : p c = true := by
  have hn := h c.toNat (toNat_lt_of_isNameChar hc)
  rw [Char.ofNat_toNat] at hn
  exact hn hc

theorem isNameChar_toUpper {c : Char} (h : isNameChar c = true) : isNameChar c.toUpper = true :=
  forall_isNameChar (p := fun c => isNameChar c.toUpper) (by decide +kernel) h

theorem isWordChar_toUpper {c : Char} (h : isWordChar c = true) : isWordChar c.toUpper = true := by
  have hall := forall_isNameChar (p := fun c => !isWordChar c || isWordChar c.toUpper)
    (by decide +kernel) (isNameChar_of_isWordChar h)
  rwa [h, Bool.not_true, Bool.false_or] at hall

theorem toLower_ne_blank {c : Char} (h : isNameChar c = true) : ' ' ≠ c.toLower := by
  have hall := forall_isNameChar (p := fun c => c.toLower != ' ') (by decide +kernel) h
  exact fun heq => bne_iff_ne.mp hall heq.symm

theorem ne_quote_of_isNameChar {c : Char} (h : isNameChar c = true) : c ≠ '"' := by
  rintro rfl
  exact absurd h (by decide)

/-! ### Upper case -/

theorem Worded.dotted {s : String} (h : Worded s) : Dotted s :=
  fun c hc => isNameChar_of_isWordChar (h c hc)

theorem Worded.append {s t : String} (hs : Worded s) (ht : Worded t) : Worded (s ++ t) := by
  intro c hc
  rw [String.toList_append] at hc
  rcases List.mem_append.mp hc with hc | hc
  · exact hs c hc
  · exact ht c hc

theorem Dotted.isAscii {s : String} (h : Dotted s) : Text.IsAscii s :=
  fun c hc => toNat_lt_of_isNameChar (h c hc)

theorem toList_upper {s : String} (h : Dotted s) :
    (Text.upper s).toList = s.toList.map Char.toUpper :=
  Text.toList_upper_of_isAscii h.isAscii

theorem Dotted.upper {s : String} (h : Dotted s) : Dotted (Text.upper s) := by
  intro c hc
  rw [toList_upper h] at hc
  obtain ⟨d, hd, rfl⟩ := List.mem_map.mp hc
  exact isNameChar_toUpper (h d hd)

theorem Worded.upper {s : String} (h : Worded s) : Worded (Text.upper s) := by
  intro c hc
  rw [toList_upper h.dotted] at hc
  obtain ⟨d, hd, rfl⟩ := List.mem_map.mp hc
  exact isWordChar_toUpper (h d hd)

theorem asciiLower_upper {s : String} (h : Dotted s) :
    Text.asciiLower (Text.upper s) = Text.asciiLower s :=
  Text.asciiLower_upper_of_isAscii h.isAscii

/-! ### One segment -/

theorem lexFrom_of_worded {cs w : List Char} (h : ∀ c ∈ cs, isWordChar c = true) :
    lexFrom (.outside w) cs = Token.ofWord (w ++ cs)
      ∧ (Lexing.outside w).after cs = .outside (w ++ cs) := by
  induction cs generalizing w with
  | nil =>
    rw [List.append_nil]
    exact ⟨rfl, rfl⟩
  | cons c cs ih =>
    obtain ⟨hc, hcs⟩ := List.forall_mem_cons.mp h
    have hstep : (Lexing.outside w).step c = ([], .outside (w ++ [c])) := by
      rw [Lexing.step, if_pos hc]
    rw [lexFrom, Lexing.after, List.foldl_cons, hstep, List.append_cons w c cs]
    exact ih hcs

/-- A word that is not reserved is none of the keywords that cut a row. -/
theorem isQuiet_word {w : String} (h : Identifier.isReserved w = false) :
    (Token.word w).isQuiet = true := by
  have hkeyword : ∀ keyword reserved : String, reserved ∈ Identifier.reservedWords →
      Text.asciiLower reserved = Text.asciiLower keyword →
      Text.sameIgnoringCase w keyword = false := by
    intro keyword reserved hmem hlower
    rw [Identifier.isReserved, List.any_eq_false] at h
    rw [Bool.eq_false_iff]
    intro hsame
    refine h reserved hmem ?_
    rw [Text.sameIgnoringCase_iff] at hsame ⊢
    rw [hlower, hsame]
  rw [Token.isQuiet, Token.connector?, Token.opensRange,
    hkeyword "and" "AND" (by decide) (by decide +kernel),
    hkeyword "or" "OR" (by decide) (by decide +kernel),
    hkeyword "between" "BETWEEN" (by decide) (by decide +kernel)]
  rfl

theorem quiet_word {s : String} (h : Worded s) (hreserved : Identifier.isReserved s = false) :
    Quiet s := by
  obtain ⟨hlex, hafter⟩ := lexFrom_of_worded (w := []) h
  refine ⟨⟨_, hafter⟩, fun t ht => ?_⟩
  rw [lex, hlex, List.nil_append, Token.ofWord] at ht
  split at ht
  · cases ht
  · rw [List.mem_singleton.mp ht, String.ofList_toList]
    exact isQuiet_word hreserved

theorem lexFrom_quoted (content : List Char) {cs : List Char} (h : ∀ c ∈ cs, c ≠ '"') :
    lexFrom (.quoted content) (cs ++ ['"']) = [.quoted (String.ofList (content ++ cs))]
      ∧ (Lexing.quoted content).after (cs ++ ['"']) = .outside [] := by
  induction cs generalizing content with
  | nil =>
    rw [List.append_nil]
    exact ⟨rfl, rfl⟩
  | cons c cs ih =>
    obtain ⟨hc, hcs⟩ := List.forall_mem_cons.mp h
    have hstep : (Lexing.quoted content).step c = ([], .quoted (content ++ [c])) := by
      rw [Lexing.step, if_neg hc]
    rw [List.cons_append, lexFrom, Lexing.after, List.foldl_cons, hstep,
      List.append_cons content c cs]
    exact ih _ hcs

theorem quiet_quoted {s : String} (h : Dotted s) : Quiet ("\"" ++ s ++ "\"") := by
  obtain ⟨hlex, hafter⟩ :=
    lexFrom_quoted [] fun c hc => ne_quote_of_isNameChar (h c hc)
  have htoList : ("\"" ++ s ++ "\"").toList = '"' :: (s.toList ++ ['"']) := by
    rw [String.toList_append, String.toList_append]
    rfl
  refine ⟨⟨[], ?_⟩, fun t ht => ?_⟩
  · rw [htoList]
    exact hafter
  · rw [lex, htoList] at ht
    have htail : t ∈ lexFrom (.quoted []) (s.toList ++ ['"']) := ht
    rw [hlex] at htail
    rw [List.mem_singleton.mp htail]
    rfl

theorem quiet_wrapValue (c : Config) {s : String} (h : Worded s) :
    Quiet (Identifier.wrapValue c s) := by
  rw [Identifier.wrapValue]
  split
  · next hstar =>
    rw [hstar]
    decide
  · split
    · exact quiet_quoted h.dotted.upper
    · next hreserved =>
      rw [Bool.not_eq_true] at hreserved
      split
      · exact quiet_word h hreserved
      · refine quiet_word h.upper ?_
        rw [Identifier.isReserved, List.any_eq_false] at hreserved ⊢
        intro r hr hsame
        refine hreserved r hr ?_
        rw [Text.sameIgnoringCase_iff] at hsame ⊢
        rw [hsame, asciiLower_upper h.dotted]

/-! ### References -/

theorem breakOn_eq_none {p : Char} {ps cs : List Char} (h : ∀ c ∈ cs, p ≠ c) :
    Text.breakOn (p :: ps) cs = none := by
  induction cs with
  | nil => rfl
  | cons c cs ih =>
    obtain ⟨hc, hcs⟩ := List.forall_mem_cons.mp h
    rw [Text.breakOn, Text.dropPrefix_cons_of_ne hc, ih hcs]
    rfl

theorem splitAlias?_of_dotted {s : String} (h : Dotted s) : Identifier.splitAlias? s = none := by
  have hcut : Text.breakOn " as ".toList (s.toList.map Char.toLower) = none := by
    refine breakOn_eq_none fun c hc => ?_
    obtain ⟨d, hd, rfl⟩ := List.mem_map.mp hc
    exact toLower_ne_blank (h d hd)
  rw [Identifier.splitAlias?, hcut]
  rfl

theorem worded_of_mem_segments {s part : String} (h : Dotted s)
    (hpart : part ∈ Identifier.segments s) : Worded part := by
  obtain ⟨cs, hcs, rfl⟩ := List.mem_map.mp hpart
  intro c hc
  rw [String.toList_ofList] at hc
  have hname := h c (Text.mem_of_mem_splitOn hcs hc)
  have hne : c ≠ '.' := by
    rintro rfl
    exact Text.not_mem_of_mem_splitOn hcs hc
  rw [isNameChar, Bool.or_eq_true, beq_iff_eq] at hname
  exact hname.resolve_right hne

theorem quiet_intercalate {parts : List String} (h : ∀ s ∈ parts, Quiet s) :
    Quiet (".".intercalate parts) := by
  induction parts with
  | nil =>
    rw [String.intercalate_nil]
    decide
  | cons s parts ih =>
    have hs := h s List.mem_cons_self
    cases parts with
    | nil =>
      rw [String.intercalate_singleton]
      exact hs
    | cons t parts =>
      have hrest := ih fun u hu => h u (List.mem_cons_of_mem _ hu)
      have hdot : Meets s "." := .of_detached hs.complete (by decide)
      rw [String.intercalate_cons_cons]
      exact (hs.append (by decide) (Or.inr (by decide))).append hrest
        (Or.inl (hdot.closed_append (by decide) (by decide)))

theorem writesSegments_quiet {c : Config} (hc : Worded c.tablePrefix) :
    Identifier.WritesSegments c (fun ch => isWordChar ch = true) Quiet where
  segment _ := quiet_wrapValue c
  tablePrefix := hc

/-- **What is written for a column never cuts a row.** -/
theorem quiet_wrap {c : Config} (hc : Worded c.tablePrefix) {column : String} (h : Dotted column) :
    Quiet (Identifier.wrap c column) := by
  rw [Identifier.wrap, splitAlias?_of_dotted h]
  exact quiet_intercalate
    ((writesSegments_quiet hc).wrapSegments _ fun s hs => worded_of_mem_segments h hs)

end OracleSql
