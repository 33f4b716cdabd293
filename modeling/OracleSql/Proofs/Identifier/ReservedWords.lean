import OracleSql.Proofs.Identifier.Qualified
import OracleSql.Proofs.Text.Case

/-!
# Reserved words without quotes

A reserved word is written in quotes, so that the database takes it for a name.  Whether a text is one
is asked before it is brought into upper case and by its ASCII letters alone, but upper case turns
letters of other scripts into ASCII letters: a long `ſ` becomes an `S`, the ligature `ﬁ` becomes `FI`.
So a text that is no reserved word may be written as one (`BecomesReserved`).

A part with dots in it, a prefix or what follows the schema of a table, is asked about as a whole and
written as several segments.  With that, what decides over every segment of a written reference is
said for each of its parts (`Covered`), and `reserved_words_shielded_iff` says when all is well.
-/

namespace OracleSql.Identifier

open Text

/-! ### Reserved words -/

/-- A text that brings no bare reserved word: a reserved word in quotes, or no reserved word. -/
def Shielded (t : String) : Prop :=
  (∃ w ∈ reservedWords, t = "\"" ++ w ++ "\"") ∨ isReserved t = false

instance (t : String) : Decidable (Shielded t) :=
  inferInstanceAs (Decidable (_ ∨ _))

theorem reservedWords_spec : ∀ w ∈ reservedWords, IsAscii w ∧
    w.toList.map Char.toUpper = w.toList ∧ '.' ∉ w.toList ∧ '"' ∉ w.toList.map Char.toLower := by
  decide +kernel

theorem isReserved_eq_false_of_mem {s : String} (h : '"' ∈ s.toList) : isReserved s = false := by
  rw [← Bool.not_eq_true]
  intro hreserved
  obtain ⟨w, hw, hsame⟩ := List.any_eq_true.mp hreserved
  have hlower : w.toList.map Char.toLower = s.toList.map Char.toLower := eq_of_beq hsame
  have hquote : '"' ∈ s.toList.map Char.toLower := List.mem_map_of_mem h
  exact (reservedWords_spec w hw).2.2.2 (hlower ▸ hquote)

theorem shielded_iff {t : String} : Shielded t ↔ isReserved t = false := by
  refine ⟨?_, Or.inr⟩
  rintro (⟨w, -, rfl⟩ | h)
  · exact isReserved_eq_false_of_mem (by simp)
  · exact h

/-- No letter of another script is an ASCII letter in lower case. -/
theorem isAscii_of_map_toLower {s w : String} (hw : IsAscii w)
    (h : s.toList.map Char.toLower = w.toList.map Char.toLower) : IsAscii s := by
  intro c hc
  have hlower : c.toLower ∈ w.toList.map Char.toLower := h ▸ List.mem_map_of_mem hc
  obtain ⟨d, hd, heq⟩ := List.mem_map.mp hlower
  by_contra hlarge
  rw [toLower_of_not_lt hlarge] at heq
  exact hlarge (heq ▸ toNat_toLower_lt (hw d hd))

theorem map_toUpper_map_toLower {s : String} (h : IsAscii s) :
    (s.toList.map Char.toLower).map Char.toUpper = s.toList.map Char.toUpper := by
  rw [List.map_map]
  exact List.map_congr_left fun c hc => toUpper_toLower_of_lt (h c hc)

/-- **The words are listed in upper case.** -/
theorem upper_mem_reservedWords {s : String} (h : isReserved s = true) :
    upper s ∈ reservedWords := by
  obtain ⟨w, hw, hsame⟩ := List.any_eq_true.mp h
  obtain ⟨hascii, hupper, -⟩ := reservedWords_spec w hw
  have hlower : s.toList.map Char.toLower = w.toList.map Char.toLower := (eq_of_beq hsame).symm
  have hs := isAscii_of_map_toLower hascii hlower
  have heq : upper s = w := by
    rw [← String.toList_inj, toList_upper_of_isAscii hs, ← map_toUpper_map_toLower hs, hlower,
      map_toUpper_map_toLower hascii, hupper]
  rwa [heq]

/-! ### What is written for one part -/

/-- A text as it is written without quotes. -/
def bareForm (c : Config) (s : String) : String :=
  match c.identifierCase with
  | .preserve => s
  | .upper => upper s

theorem wrapValue_eq (c : Config) (s : String) :
    wrapValue c s = if isReserved s then "\"" ++ upper s ++ "\"" else bareForm c s := by
  by_cases hstar : s = "*"
  · have hreserved : isReserved "*" = false := by decide +kernel
    have hupper : upper "*" = "*" := by decide +kernel
    rw [wrapValue, if_pos hstar, hstar, hreserved, bareForm]
    cases c.identifierCase
    · rfl
    · exact hupper.symm
  · rw [wrapValue, if_neg hstar]
    rfl

/-- A text that is no reserved word, but is one as it is written. -/
def BecomesReserved (c : Config) (s : String) : Prop :=
  c.identifierCase = .upper ∧ isReserved s = false ∧ isReserved (upper s) = true

theorem becomesReserved_iff {c : Config} {s : String} :
    BecomesReserved c s ↔ isReserved s = false ∧ isReserved (bareForm c s) = true := by
  rw [BecomesReserved, bareForm]
  cases c.identifierCase with
  | preserve =>
    refine ⟨nofun, fun h => ?_⟩
    rw [h.1] at h
    exact absurd h.2 Bool.false_ne_true
  | upper => exact and_iff_right rfl

/-- Only upper case beyond ASCII makes reserved words. -/
theorem not_becomesReserved {c : Config} {s : String}
    (h : c.identifierCase = .preserve ∨ IsAscii s) : ¬BecomesReserved c s := by
  rintro ⟨hcase, hnot, hupper⟩
  rcases h with h | h
  · rw [h] at hcase
    cases hcase
  · have hsame : isReserved (upper s) = isReserved s := by
      refine List.any_congr rfl fun w => ?_
      rw [Bool.eq_iff_iff, sameIgnoringCase_iff, sameIgnoringCase_iff,
        asciiLower_upper_of_isAscii h]
    rw [hsame, hnot] at hupper
    cases hupper

theorem shielded_wrapValue_iff {c : Config} {s : String} :
    Shielded (wrapValue c s) ↔ ¬BecomesReserved c s := by
  rw [wrapValue_eq, becomesReserved_iff]
  split
  · next h =>
    rw [h]
    exact iff_of_true (.inl ⟨_, upper_mem_reservedWords h, rfl⟩) fun hnot => nomatch hnot.1
  · next h =>
    rw [Bool.not_eq_true] at h
    rw [shielded_iff, ← Bool.not_eq_true, and_iff_right h]

/-! ### Segments -/

/-- Whether reserved words are quoted in what is written for a part, segment by segment. -/
def Covered (c : Config) (s : String) : Prop :=
  isReserved s = true ∨ ∀ t ∈ segments (bareForm c s), isReserved t = false

theorem not_mem_bareForm {c : Config} {s : String} (h : '.' ∉ s.toList) :
    '.' ∉ (bareForm c s).toList := by
  rw [bareForm]
  split
  · exact h
  · rwa [mem_upper_iff (by decide) (by decide) (by decide)]

theorem covered_iff_of_not_mem {c : Config} {s : String} (h : '.' ∉ s.toList) :
    Covered c s ↔ ¬BecomesReserved c s := by
  rw [Covered, segments_of_not_mem (not_mem_bareForm h), List.forall_mem_singleton,
    becomesReserved_iff, not_and_or, Bool.not_eq_false, Bool.not_eq_true]

theorem shielded_segments_wrapValue_iff {c : Config} {s : String} :
    (∀ t ∈ segments (wrapValue c s), Shielded t) ↔ Covered c s := by
  rw [wrapValue_eq, Covered]
  split
  · next h =>
    have hword := upper_mem_reservedWords h
    have hdot : '.' ∉ ("\"" ++ upper s ++ "\"").toList := by
      have := (reservedWords_spec _ hword).2.2.1
      simpa using this
    rw [segments_of_not_mem hdot, List.forall_mem_singleton]
    exact iff_of_true (.inl ⟨_, hword, rfl⟩) (.inl h)
  · next h =>
    rw [or_iff_right h]
    exact forall₂_congr fun t _ => shielded_iff

theorem segments_intercalate_flatMap {parts : List String} (hne : parts ≠ []) :
    segments (".".intercalate parts) = parts.flatMap segments := by
  induction parts with
  | nil => exact absurd rfl hne
  | cons s parts ih =>
    cases parts with
    | nil => rw [String.intercalate_singleton, List.flatMap_cons, List.flatMap_nil, List.append_nil]
    | cons t parts =>
      have hcut (as bs : List Char) :
          (as ++ '.' :: bs).splitOn '.' = as.splitOn '.' ++ bs.splitOn '.' := by
        simp only [List.splitOn_eq_splitOnP]
        exact List.splitOnP_append_cons _ _ (beq_self_eq_true '.')
      rw [List.flatMap_cons, ← ih (List.cons_ne_nil t parts), String.intercalate_cons_cons, segments,
        segments, segments, String.toList_append, String.toList_append, List.append_assoc,
        ← List.map_append]
      exact congrArg (List.map String.ofList) (hcut _ _)

theorem shielded_segments_iff {c : Config} {parts : List String} (hne : parts ≠ []) :
    (∀ t ∈ segments (".".intercalate (parts.map (wrapValue c))), Shielded t) ↔
      ∀ p ∈ parts, Covered c p := by
  rw [segments_intercalate_flatMap (mt List.map_eq_nil_iff.mp hne), List.forall_mem_flatMap,
    List.forall_mem_map]
  exact forall₂_congr fun p _ => shielded_segments_wrapValue_iff

/-! ### References -/

/-- The parts of a column reference without alias: its segments, with the prefix before the table. -/
def columnParts (c : Config) : List String → List String
  | [] => []
  | [column] => [column]
  | [table, column] => [c.tablePrefix ++ table, column]
  | schema :: rest => schema :: columnParts c rest

theorem wrapSegments_eq (c : Config) (parts : List String) :
    wrapSegments c parts = (columnParts c parts).map (wrapValue c) := by
  induction parts using wrapSegments.induct with
  | case1 => rfl
  | case2 column => rfl
  | case3 table column => rfl
  | case4 schema rest hsingle hpair ih =>
    rw [wrapSegments, columnParts, List.map_cons, ih]
    all_goals assumption

theorem columnParts_ne_nil (c : Config) {parts : List String} (h : parts ≠ []) :
    columnParts c parts ≠ [] := by
  induction parts using wrapSegments.induct with
  | case1 => exact h
  | case2 column => exact List.cons_ne_nil _ _
  | case3 table column => exact List.cons_ne_nil _ _
  | case4 schema rest hsingle hpair ih =>
    rw [columnParts]
    · exact List.cons_ne_nil _ _
    all_goals assumption

/-- The parts of a table reference without alias: its schema or else that of the configuration, and
the rest with the prefix. -/
def tableParts (c : Config) (path : String) : List String :=
  match breakOn ['.'] path.toList with
  | some (schema, name) => [String.ofList schema, c.tablePrefix ++ String.ofList name]
  | none => c.schemaPrefix.toList ++ [c.tablePrefix ++ path]

theorem tableParts_ne_nil (c : Config) (path : String) : tableParts c path ≠ [] := by
  rw [tableParts]
  split
  · exact List.cons_ne_nil _ _
  · exact List.append_ne_nil_of_right_ne_nil _ (List.cons_ne_nil _ _)

theorem wrapTablePath_eq (c : Config) (path : String) :
    wrapTablePath c path = ".".intercalate ((tableParts c path).map (wrapValue c)) := by
  have hpair (s t : String) : ".".intercalate ([s, t].map (wrapValue c))
      = wrapValue c s ++ "." ++ wrapValue c t := by
    rw [List.map_cons, List.map_singleton, String.intercalate_cons_cons,
      String.intercalate_singleton]
  rw [wrapTablePath, tableParts]
  cases breakOn ['.'] path.toList with
  | some cut => exact (hpair _ _).symm
  | none =>
    cases c.schemaPrefix with
    | none => exact String.intercalate_singleton.symm
    | some schema => exact (hpair _ _).symm

/-- The parts of a reference: those of its path, and the alias. -/
def referenceParts (pathParts : String → List String) (reference : String) : List String :=
  match splitAlias? reference with
  | some (path, shown) => pathParts path ++ [shown]
  | none => pathParts reference

/-- What is written for a reference: its path, and the alias when it has one. -/
def writtenForm (c : Config) (writtenPath : String → String) (reference : String) :
    String × Option String :=
  match splitAlias? reference with
  | some (path, shown) => (writtenPath path, some (wrapValue c shown))
  | none => (writtenPath reference, none)

/-- A path, and behind a joint the alias when there is one. -/
def withAlias (joint : String) : String × Option String → String
  | (path, some shown) => path ++ joint ++ shown
  | (path, none) => path

/-- The segments of a path, and those of the alias. -/
def writtenSegments : String × Option String → List String
  | (path, shown) => segments path ++ shown.toList.flatMap segments

theorem wrap_eq (c : Config) (reference : String) :
    wrap c reference = withAlias " as " (writtenForm c (wrapPath c) reference) := by
  rw [wrap, writtenForm]
  cases splitAlias? reference <;> rfl

theorem wrapTable_eq (c : Config) (reference : String) :
    wrapTable c reference = withAlias " " (writtenForm c (wrapTablePath c) reference) := by
  rw [wrapTable, writtenForm]
  cases splitAlias? reference <;> rfl

theorem shielded_writtenSegments_iff {c : Config} {writtenPath : String → String}
    {pathParts : String → List String} (hne : ∀ path, pathParts path ≠ [])
    (hwritten : ∀ path, writtenPath path = ".".intercalate ((pathParts path).map (wrapValue c)))
    (reference : String) :
    (∀ t ∈ writtenSegments (writtenForm c writtenPath reference), Shielded t) ↔
      ∀ p ∈ referenceParts pathParts reference, Covered c p := by
  rw [writtenForm, referenceParts]
  split
  · rw [writtenSegments, Option.toList_some, List.flatMap_singleton, List.forall_mem_append,
      List.forall_mem_append, hwritten, shielded_segments_iff (hne _),
      shielded_segments_wrapValue_iff, List.forall_mem_singleton]
  · rw [writtenSegments, Option.toList_none, List.flatMap_nil, List.append_nil, hwritten,
      shielded_segments_iff (hne _)]

/-- **When reserved words are quoted.**  What is written for a text brings a bare reserved word exactly
when upper case makes one of it, which takes a configuration that asks for upper case and a
letter beyond ASCII.  The segments of a written reference bring none exactly when each of its parts is
covered, and a part without dots is covered unless it becomes a reserved word. -/
theorem reserved_words_shielded_iff (c : Config) :
    (∀ s, Shielded (wrapValue c s) ↔ ¬BecomesReserved c s) ∧
    (∀ s, c.identifierCase = .preserve ∨ IsAscii s → ¬BecomesReserved c s) ∧
    (∀ reference, wrap c reference = withAlias " as " (writtenForm c (wrapPath c) reference) ∧
      ((∀ t ∈ writtenSegments (writtenForm c (wrapPath c) reference), Shielded t) ↔
        ∀ p ∈ referenceParts (fun path => columnParts c (segments path)) reference, Covered c p)) ∧
    (∀ reference, wrapTable c reference = withAlias " " (writtenForm c (wrapTablePath c) reference) ∧
      ((∀ t ∈ writtenSegments (writtenForm c (wrapTablePath c) reference), Shielded t) ↔
        ∀ p ∈ referenceParts (tableParts c) reference, Covered c p)) ∧
    ∀ s, '.' ∉ s.toList → (Covered c s ↔ ¬BecomesReserved c s) := by
  refine ⟨fun _ => shielded_wrapValue_iff, fun _ => not_becomesReserved,
    fun _ => ⟨wrap_eq c _, ?_⟩, fun _ => ⟨wrapTable_eq c _, ?_⟩, fun _ => covered_iff_of_not_mem⟩
  · refine shielded_writtenSegments_iff (fun path => columnParts_ne_nil c ?_) (fun path => ?_) _
    · exact mt List.map_eq_nil_iff.mp (List.splitOn_ne_nil '.' path.toList)
    · rw [wrapPath, wrapSegments_eq]
  · exact shielded_writtenSegments_iff (tableParts_ne_nil c) (wrapTablePath_eq c) _

/-- A column that is a reserved word, where all is written in upper case. -/
theorem reserved_words_shielded_level :
    let c : Config := { Config.standard with identifierCase := .upper }
    IsAscii "level" ∧ '.' ∉ "level".toList ∧ ¬BecomesReserved c "level" ∧ Covered c "level" ∧
      Shielded (wrapValue c "level") ∧ wrapValue c "level" = "\"LEVEL\"" := by
  intro c
  obtain ⟨hshielded, hascii, -, -, hcovered⟩ := reserved_words_shielded_iff c
  have hletters : IsAscii "level" := by decide
  have hdot : '.' ∉ "level".toList := by decide
  have hstays := hascii "level" (.inr hletters)
  exact ⟨hletters, hdot, hstays, (hcovered "level" hdot).mpr hstays, (hshielded "level").mpr hstays,
    by decide +kernel⟩

/-- **A long s becomes an S**, and the reserved word that this makes is written without quotes. -/
theorem reserved_word_bare :
    let c : Config := { Config.standard with identifierCase := .upper }
    wrapValue c "uſer" = "USER" ∧ isReserved "USER" = true ∧ ¬Shielded (wrapValue c "uſer") ∧
      ¬∀ t ∈ writtenSegments (writtenForm c (wrapTablePath c) "hr.uſer"), Shielded t := by
  decide +kernel

end OracleSql.Identifier
