import OracleSql.Proofs.Condition.Names
import OracleSql.Proofs.Identifier.SelfContained

/-!
# Columns that name their table

A column is written with its table before the last dot.  The table itself is written in the `from`
clause or in a join, and there it is known by its alias, or else by the last segment of its name.
The two are written by different functions.  `wrap` puts the table prefix before whatever qualifies
the column, and `wrapTable` puts it before the name, never before the alias.  So the two agree on a
name, and on an alias only without a prefix (`qualifier_resolves_iff`).

What is written for a segment can be told from its end: the quote of a reserved word, or the last
character of the word (`getLast?_wrapValue`).
-/

namespace OracleSql

/-! ### The parts of a text around its last separator -/

namespace Text

def beforeLast (separator : Char) (s : String) : String :=
  String.ofList (s.toList.reverse.dropWhile (· != separator)).tail.reverse

/-- What stands behind the last separator, the whole text if there is none. -/
def afterLast (separator : Char) (s : String) : String :=
  String.ofList (s.toList.reverse.takeWhile (· != separator)).reverse

variable {separator : Char} {s : String}

theorem takeWhile_reverse {cs : List Char} (h : separator ∉ cs) (rest : List Char)
    (hrest : ∀ c ∈ rest.head?, c = separator) :
    (cs.reverse ++ rest).takeWhile (· != separator) = cs.reverse ∧
      (cs.reverse ++ rest).dropWhile (· != separator) = rest := by
  refine takeWhile_append_eq (fun c hc => bne_iff_ne.mpr ?_) fun c hc => ?_
  · rintro rfl
    exact h (List.mem_reverse.mp hc)
  · rw [hrest c hc, bne_self_eq_false]

theorem around_last {x y : String} (hy : separator ∉ y.toList)
    (hs : s.toList = x.toList ++ separator :: y.toList) :
    beforeLast separator s = x ∧ afterLast separator s = y := by
  have hreverse : s.toList.reverse = y.toList.reverse ++ separator :: x.toList.reverse := by
    rw [hs, List.reverse_append, List.reverse_cons, List.append_assoc]
    rfl
  obtain ⟨htake, hdrop⟩ := takeWhile_reverse hy (separator :: x.toList.reverse)
    fun c hc => by cases hc; rfl
  rw [beforeLast, afterLast, hreverse, htake, hdrop, List.tail_cons, List.reverse_reverse,
    List.reverse_reverse, String.ofList_toList, String.ofList_toList]
  exact ⟨rfl, rfl⟩

theorem not_mem_afterLast (separator : Char) (s : String) :
    separator ∉ (afterLast separator s).toList := by
  rw [afterLast, String.toList_ofList, List.mem_reverse]
  intro hmem
  have hne := List.all_eq_true.mp List.all_takeWhile separator hmem
  rw [bne_self_eq_false] at hne
  cases hne

theorem afterLast_eq_self (h : separator ∉ s.toList) : afterLast separator s = s := by
  obtain ⟨htake, _⟩ := takeWhile_reverse h [] nofun
  rw [List.append_nil] at htake
  rw [afterLast, htake, List.reverse_reverse, String.ofList_toList]

/-! ### Upper case -/

theorem toList_upper_append (s t : String) :
    (upper (s ++ t)).toList = (upper s).toList ++ (upper t).toList := by
  rw [upper, upper, upper, String.toList_ofList, String.toList_ofList, String.toList_ofList,
    String.toList_append, List.flatMap_append]

theorem upperSequences_ne_nil : ∀ r ∈ upperSequences, r.2 ≠ [] := by decide +kernel

theorem upperChar_ne_nil (c : Char) : upperChar c ≠ [] := by
  rw [upperChar]
  split
  · exact List.cons_ne_nil _ _
  · rw [mapCase]
    split
    · exact List.cons_ne_nil _ _
    · split
      · next ns hns =>
        obtain ⟨_, _, hsequences, _⟩ := List.lookup_eq_some_iff.mp hns
        refine fun h => upperSequences_ne_nil (c.toNat, ns) ?_ (List.map_eq_nil_iff.mp h)
        rw [hsequences]
        exact List.mem_append_right _ List.mem_cons_self
      · exact List.cons_ne_nil _ _

theorem eq_empty_of_upper (h : (upper s).toList = []) : s = "" := by
  rw [upper, String.toList_ofList, List.flatMap_eq_nil_iff] at h
  refine String.toList_eq_nil_iff.mp (List.eq_nil_iff_forall_not_mem.mpr fun c hc => ?_)
  exact upperChar_ne_nil c (h c hc)

/-- A character before the letters is there in upper case exactly when it has been there before. -/
theorem mem_upper_iff {ch : Char} (hsmall : ch.toNat < 64) (hzero : ch.toNat ≠ 0)
    (hself : ch ∈ upperChar ch) : ch ∈ (upper s).toList ↔ ch ∈ s.toList := by
  rw [upper, String.toList_ofList, List.mem_flatMap]
  constructor
  · rintro ⟨c, hc, hmem⟩
    rwa [eq_of_mem_upperChar hmem hsmall hzero]
  · exact fun h => ⟨ch, h, hself⟩

end Text

namespace Identifier

/-! ### What is written for a segment -/

/-- **A character before the letters stays as it is**, but for the quotes of a reserved word. -/
theorem mem_wrapValue_iff {c : Config} {s : String} {ch : Char} (hsmall : ch.toNat < 64)
    (hzero : ch.toNat ≠ 0) (hself : ch ∈ Text.upperChar ch) (hquote : ch ≠ '"') :
    ch ∈ (wrapValue c s).toList ↔ ch ∈ s.toList := by
  have hmark : ch ∉ "\"".toList := fun hmem => hquote (List.mem_singleton.mp hmem)
  rw [wrapValue]
  split
  · rfl
  · split
    · rw [String.toList_append, String.toList_append, List.mem_append, List.mem_append,
        Text.mem_upper_iff hsmall hzero hself]
      exact ⟨fun h => (h.resolve_right hmark).resolve_left hmark, fun h => Or.inl (Or.inr h)⟩
    · split
      · rfl
      · exact Text.mem_upper_iff hsmall hzero hself

/-- A segment that ends in a word character is written in one of two ways. -/
theorem wrapValue_append (c : Config) {p w : String} (hw : Worded w) (hne : w ≠ "") :
    wrapValue c (p ++ w) =
      if isReserved (p ++ w) then "\"" ++ Text.upper (p ++ w) ++ "\""
      else match c.identifierCase with
        | .preserve => p ++ w
        | .upper => Text.upper (p ++ w) := by
  have hstar : p ++ w ≠ "*" := by
    intro hstar
    obtain ⟨ch, rest, hcs⟩ := List.exists_cons_of_ne_nil (mt String.toList_eq_nil_iff.mp hne)
    have hch : ch ∈ w.toList := by rw [hcs]; exact List.mem_cons_self
    have hmem : ch ∈ (p ++ w).toList := by
      rw [String.toList_append]
      exact List.mem_append_right _ hch
    rw [hstar] at hmem
    have hword := hw ch hch
    rw [List.mem_singleton.mp hmem] at hword
    exact absurd hword (by decide)
  rw [wrapValue]
  exact if_neg hstar

/-- **A segment shows at its end whether it is a reserved word.** -/
theorem getLast?_wrapValue (c : Config) {p w : String} (hw : Worded w) (hne : w ≠ "") :
    (wrapValue c (p ++ w)).toList.getLast? = some '"' ↔
      isReserved (p ++ w) = true := by
  have hlast {v : String} (hv : Worded v) (hvne : v ≠ "") (front : List Char) :
      (front ++ v.toList).getLast? ≠ some '"' := by
    rw [List.getLast?_append]
    cases hlast : v.toList.getLast? with
    | none => exact absurd (String.toList_eq_nil_iff.mp (List.getLast?_eq_none_iff.mp hlast)) hvne
    | some ch =>
      rintro ⟨⟩
      exact absurd (hv _ (List.mem_of_getLast? hlast)) (by decide)
  rw [wrapValue_append c hw hne]
  split
  · next hreserved =>
    rw [String.toList_append, iff_true_right hreserved]
    exact List.getLast?_concat
  · next hreserved =>
    rw [iff_false_right hreserved]
    split
    · rw [String.toList_append]
      exact hlast hw hne _
    · rw [Text.toList_upper_append]
      exact hlast hw.upper (fun h => hne (Text.eq_empty_of_upper (by rw [h]; rfl))) _

/-- **A prefix shows in what is written for a word.** -/
theorem eq_empty_of_wrapValue_append {c : Config} {p w : String} (hw : Worded w)
    (hne : w ≠ "") (h : wrapValue c (p ++ w) = wrapValue c w) : p = "" := by
  have hnone : wrapValue c w = wrapValue c ("" ++ w) := by rw [String.empty_append]
  have hreserved : isReserved (p ++ w) = isReserved w := by
    rw [Bool.eq_iff_iff, ← getLast?_wrapValue c hw hne, h, hnone, getLast?_wrapValue c hw hne,
      String.empty_append]
  have hupper : (Text.upper (p ++ w)).toList = (Text.upper w).toList → p = "" := by
    intro heq
    rw [Text.toList_upper_append] at heq
    exact Text.eq_empty_of_upper (List.append_left_eq_self.mp heq)
  rw [hnone, wrapValue_append c hw hne, wrapValue_append c hw hne, String.empty_append,
    hreserved] at h
  have h := congrArg String.toList h
  split at h
  · rw [String.toList_append, String.toList_append, String.toList_append, String.toList_append]
      at h
    exact hupper (List.append_cancel_left (List.append_cancel_right h))
  · split at h
    · rw [String.toList_append] at h
      exact String.toList_eq_nil_iff.mp (List.append_left_eq_self.mp h)
    · exact hupper h

/-! ### Tables and their columns -/

structure PlainWord where
  text : String
  nonempty : text ≠ ""
  worded : Worded text

structure TableReference where
  name : PlainWord
  alias? : Option PlainWord

namespace PlainWord

theorem not_mem_text (w : PlainWord) {ch : Char} (h : isWordChar ch = false) :
    ch ∉ w.text.toList := by
  intro hmem
  rw [w.worded ch hmem] at h
  cases h

theorem not_mem_wrapValue (w : PlainWord) (c : Config) {ch : Char} (hword : isWordChar ch = false)
    (hquote : ch ≠ '"') : ch ∉ (wrapValue c w.text).toList := by
  have hupper : ch ∉ (Text.upper w.text).toList := by
    intro hmem
    rw [w.worded.upper ch hmem] at hword
    cases hword
  have hwrap := wrapValue_append c (p := "") w.worded w.nonempty
  rw [String.empty_append] at hwrap
  rw [hwrap]
  split
  · rw [String.toList_append, String.toList_append, List.mem_append, List.mem_append]
    rintro ((hmem | hmem) | hmem)
    · exact hquote (List.mem_singleton.mp hmem)
    · exact hupper hmem
    · exact hquote (List.mem_singleton.mp hmem)
  · split
    · exact w.not_mem_text hword
    · exact hupper

theorem trimList_text (w : PlainWord) :
    Text.trimList Text.isBlank w.text.toList = w.text.toList := by
  have hblank : ∀ ch ∈ w.text.toList, Text.isBlank ch = false := by
    intro ch hch
    have hall := forall_isNameChar (p := fun ch => !Text.isBlank ch) (by decide +kernel)
      (isNameChar_of_isWordChar (w.worded ch hch))
    exact (Bool.not_eq_true' _).mp hall
  have htrim : Text.trimList Text.isBlank (w.text.toList ++ []) = w.text.toList :=
    Text.trimList_append (mt String.toList_eq_nil_iff.mp w.nonempty)
      (fun ch hch => hblank ch (List.mem_of_head? hch))
      (fun ch hch => hblank ch (List.mem_of_getLast? hch)) nofun
  rwa [List.append_nil] at htrim

end PlainWord

namespace TableReference

/-- The reference in a description: `name` or `name as alias`. -/
def text (r : TableReference) : String :=
  match r.alias? with
  | none => r.name.text
  | some shown => r.name.text ++ " as " ++ shown.text

/-- The word that qualifies the columns of the table. -/
def qualifier (r : TableReference) : PlainWord :=
  r.alias?.getD r.name

/-- A column of the table, as a description names it. -/
def column (r : TableReference) (name : PlainWord) : String :=
  r.qualifier.text ++ "." ++ name.text

/-- **What the table is known by** in the statement: what is written behind the last blank for a
table with an alias, and behind the last dot for one without. -/
def shown (c : Config) (r : TableReference) : String :=
  Text.afterLast (if r.alias?.isSome then ' ' else '.') (wrapTable c r.text)

end TableReference

theorem segments_intercalate {parts : List String} (hne : parts ≠ [])
    (h : ∀ s ∈ parts, '.' ∉ s.toList) : segments (".".intercalate parts) = parts := by
  have hsplit : (['.'].intercalate (parts.map String.toList)).splitOn '.'
      = parts.map String.toList :=
    List.splitOn_intercalate '.' (List.forall_mem_map.mpr h) (mt List.map_eq_nil_iff.mp hne)
  rw [segments, String.toList_intercalate, show ".".toList = ['.'] from rfl, hsplit, List.map_map]
  exact (List.map_congr_left fun s _ => String.ofList_toList).trans (List.map_id parts)

theorem segments_of_not_mem {s : String} (h : '.' ∉ s.toList) : segments s = [s] := by
  have hread := segments_intercalate (List.cons_ne_nil s []) (List.forall_mem_singleton.mpr h)
  rwa [String.intercalate_singleton] at hread

namespace PlainWord

theorem dotted_pair (v w : PlainWord) : Dotted (v.text ++ "." ++ w.text) := by
  intro ch hch
  rw [String.toList_append, String.toList_append, List.mem_append, List.mem_append] at hch
  rcases hch with (hch | hch) | hch
  · exact v.worded.dotted ch hch
  · rw [List.mem_singleton.mp hch]
    decide
  · exact w.worded.dotted ch hch

theorem segments_pair (v w : PlainWord) :
    segments (v.text ++ "." ++ w.text) = [v.text, w.text] := by
  have hpair : v.text ++ "." ++ w.text = ".".intercalate [v.text, w.text] := by
    rw [String.intercalate_cons_cons, String.intercalate_singleton]
  rw [hpair]
  refine segments_intercalate (List.cons_ne_nil _ _) (List.forall_mem_cons.mpr ⟨?_, ?_⟩)
  · exact v.not_mem_text (by decide)
  · exact List.forall_mem_singleton.mpr (w.not_mem_text (by decide))

end PlainWord

/-- **The qualifier of a column gets the table prefix**, whether it is a name or an alias. -/
theorem beforeLast_wrap_column (c : Config) (r : TableReference) (name : PlainWord) :
    Text.beforeLast '.' (wrap c (r.column name))
      = wrapValue c (c.tablePrefix ++ r.qualifier.text) := by
  have hdotted : Dotted (r.column name) := r.qualifier.dotted_pair name
  have hsegments : segments (r.column name) = [r.qualifier.text, name.text] :=
    r.qualifier.segments_pair name
  have hwrap : wrap c (r.column name)
      = wrapValue c (c.tablePrefix ++ r.qualifier.text) ++ "." ++ wrapValue c name.text := by
    rw [wrap, splitAlias?_of_dotted hdotted]
    change wrapPath c (r.column name) = _
    rw [wrapPath, hsegments, wrapSegments, String.intercalate_cons_cons,
      String.intercalate_singleton]
  refine (Text.around_last (name.not_mem_wrapValue c (by decide) (by decide)) ?_).1
  rw [hwrap, String.toList_append, String.toList_append, List.append_assoc]
  rfl

theorem splitAlias?_words (name shown : PlainWord) :
    splitAlias? (name.text ++ " as " ++ shown.text) = some (name.text, shown.text) := by
  have htext : (name.text ++ " as " ++ shown.text).toList
      = name.text.toList ++ (" as ".toList ++ shown.text.toList) := by
    rw [String.toList_append, String.toList_append, List.append_assoc]
  have hbreak : Text.breakOn " as ".toList
      ((name.text.toList ++ (" as ".toList ++ shown.text.toList)).map Char.toLower)
      = some (name.text.toList.map Char.toLower, shown.text.toList.map Char.toLower) := by
    rw [List.map_append, List.map_append]
    refine Text.breakOn_append _ _ fun hmem => ?_
    obtain ⟨ch, hch, hlower⟩ := List.mem_map.mp hmem
    exact toLower_ne_blank (name.worded.dotted ch hch) hlower.symm
  have hdrop : (name.text.toList ++ (" as ".toList ++ shown.text.toList)).drop
      (name.text.toList.length + 4) = shown.text.toList := by
    rw [List.drop_append, List.drop_eq_nil_of_le (Nat.le_add_right _ _), Nat.add_sub_cancel_left]
    rfl
  rw [splitAlias?, htext, hbreak]
  simp only [Option.map_some, List.length_map, List.take_left', hdrop, name.trimList_text,
    shown.trimList_text, String.ofList_toList]

/-- An alias is what the table is known by, and it gets no prefix. -/
theorem shown_alias (c : Config) (name shown : PlainWord) :
    TableReference.shown c ⟨name, some shown⟩ = wrapValue c shown.text := by
  have hwrap : wrapTable c (TableReference.text ⟨name, some shown⟩)
      = wrapTablePath c name.text ++ " " ++ wrapValue c shown.text := by
    rw [wrapTable, TableReference.text, splitAlias?_words]
  have hblank : ' ' ∉ (wrapValue c shown.text).toList :=
    shown.not_mem_wrapValue c (by decide) (by decide)
  refine (Text.around_last (x := wrapTablePath c name.text) hblank ?_).2
  rw [hwrap, String.toList_append, String.toList_append, List.append_assoc]
  rfl

/-- A table without an alias is known by its name with the prefix, as long as that is one
segment. -/
theorem shown_name_iff (c : Config) (name : PlainWord) :
    wrapValue c (c.tablePrefix ++ name.text) = TableReference.shown c ⟨name, none⟩ ↔
      '.' ∉ c.tablePrefix.toList := by
  have hdot : '.' ∈ (wrapValue c (c.tablePrefix ++ name.text)).toList ↔
      '.' ∈ c.tablePrefix.toList := by
    rw [mem_wrapValue_iff (by decide) (by decide) (by decide) (by decide), String.toList_append,
      List.mem_append]
    exact or_iff_left (name.not_mem_text (by decide))
  rw [← hdot]
  constructor
  · intro h
    rw [h]
    exact Text.not_mem_afterLast '.' _
  · intro h
    have hpath : wrapTable c (TableReference.text ⟨name, none⟩) = wrapTablePath c name.text := by
      rw [wrapTable, TableReference.text, splitAlias?_of_dotted name.worded.dotted]
    have hbreak : Text.breakOn ['.'] name.text.toList = none :=
      breakOn_eq_none fun _ hch heq => name.not_mem_text (by decide) (heq ▸ hch)
    rw [TableReference.shown, hpath, wrapTablePath, hbreak]
    cases c.schemaPrefix with
    | none => exact (Text.afterLast_eq_self h).symm
    | some schema =>
      refine (Text.around_last (x := wrapValue c schema) h ?_).2.symm
      rw [String.toList_append, String.toList_append, List.append_assoc]
      rfl

/-- **When a qualified column resolves to its table.**  For every configuration, every table with or
without an alias and every column, what is written before the column is what the table is known by
exactly when there is no table prefix, or the table has no alias and the prefix is part of the
segment, that is, it has no dot. -/
theorem qualifier_resolves_iff (c : Config) (r : TableReference) (name : PlainWord) :
    Text.beforeLast '.' (wrap c (r.column name)) = r.shown c ↔
      c.tablePrefix = "" ∨ (r.alias? = none ∧ '.' ∉ c.tablePrefix.toList) := by
  rw [beforeLast_wrap_column]
  obtain ⟨table, shown?⟩ := r
  cases shown? with
  | some shown =>
    rw [shown_alias]
    constructor
    · exact fun h => Or.inl (eq_empty_of_wrapValue_append shown.worded shown.nonempty h)
    · rintro (h | ⟨h, _⟩)
      · rw [h, String.empty_append]
        rfl
      · cases h
  | none =>
    refine (shown_name_iff c table).trans ⟨fun h => Or.inr ⟨rfl, h⟩, ?_⟩
    rintro (h | ⟨_, h⟩)
    · rw [h]
      decide
    · exact h

/-- **A prefix is put before an alias where a column is written, and nowhere else.** -/
theorem qualifier_unresolved_alias :
    let c : Config := { Config.standard with tablePrefix := "app_" }
    let r : TableReference := ⟨⟨"users", by decide, by decide⟩, some ⟨"u", by decide, by decide⟩⟩
    let id : PlainWord := ⟨"id", by decide, by decide⟩
    wrapTable c r.text = "app_users u" ∧ wrap c (r.column id) = "app_u.id" ∧
      Text.beforeLast '.' (wrap c (r.column id)) ≠ r.shown c := by
  decide +kernel

end Identifier

end OracleSql
