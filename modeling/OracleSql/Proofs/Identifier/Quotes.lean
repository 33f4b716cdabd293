import OracleSql.Proofs.Identifier.Qualified
import OracleSql.Proofs.Statement.Literals

/-!
# References and single quotes

A reference is written with dots, blanks, double quotes and upper case around and in its segments.
None of them brings a single quote or takes one away.  So what is written for a reference holds a
single quote exactly when the reference or a prefix before it holds one (`quoteFree_wrapTable_iff`,
`quoteFree_wrap_iff`, `quoteFree_qualify_iff`).
-/

namespace OracleSql

theorem quoteFree_append {s t : String} : QuoteFree (s ++ t) ↔ QuoteFree s ∧ QuoteFree t := by
  rw [QuoteFree, String.toList_append, List.mem_append, not_or]
  rfl

theorem quoteFree_intercalate {separator : String} (h : QuoteFree separator)
    {parts : List String} :
    QuoteFree (separator.intercalate parts) ↔ ∀ s ∈ parts, QuoteFree s := by
  induction parts with
  | nil =>
    rw [String.intercalate_nil]
    exact iff_of_true (by decide) (List.forall_mem_nil _)
  | cons s parts ih =>
    cases parts with
    | nil => rw [String.intercalate_singleton, List.forall_mem_singleton]
    | cons t parts =>
      rw [String.intercalate_cons_cons, quoteFree_append, quoteFree_append, ih,
        and_iff_left h, List.forall_mem_cons (a := s)]

namespace Identifier

/-! ### Cutting a reference -/

theorem not_mem_of_breakOn {separator : Char} {cs : List Char}
    (h : Text.breakOn [separator] cs = none) : separator ∉ cs := by
  intro hmem
  obtain ⟨before, after, hcs, hfirst⟩ := List.eq_append_cons_of_mem hmem
  have hcut : Text.breakOn [separator] cs = some (before, after) := by
    rw [hcs]
    exact Text.breakOn_append before after hfirst
  rw [h] at hcut
  cases hcut

theorem quoteFree_trimList (cs : List Char) :
    QuoteFree (String.ofList (Text.trimList Text.isBlank cs)) ↔ '\'' ∉ cs := by
  obtain ⟨before, after, hcs, hbefore, hafter⟩ := Text.exists_trimList Text.isBlank cs
  rw [QuoteFree, String.toList_ofList]
  refine not_congr ⟨Text.mem_of_mem_trimList, fun hmem => ?_⟩
  rw [hcs, List.mem_append, List.mem_append] at hmem
  refine (hmem.resolve_left fun h => ?_).resolve_right fun h => ?_
  · exact absurd (hbefore _ h) (by decide)
  · exact absurd (hafter _ h) (by decide)

/-- The word between the two sides of an alias has no quotes. -/
theorem quoteFree_of_splitAlias? {s expression shown : String}
    (h : splitAlias? s = some (expression, shown)) :
    QuoteFree s ↔ QuoteFree expression ∧ QuoteFree shown := by
  obtain ⟨⟨before, after⟩, hcut, heq⟩ := Option.map_eq_some_iff.mp h
  cases heq
  have hlower := Text.eq_of_breakOn hcut
  have hword : ((s.toList.drop before.length).take 4).map Char.toLower = " as ".toList := by
    rw [List.map_take, List.map_drop, hlower, List.drop_left]
    rfl
  have hnone : '\'' ∉ (s.toList.drop before.length).take 4 := fun hmem =>
    absurd (hword ▸ List.mem_map_of_mem hmem : '\''.toLower ∈ " as ".toList) (by decide)
  have hs : s.toList = s.toList.take before.length ++
      ((s.toList.drop before.length).take 4 ++ s.toList.drop (before.length + 4)) := by
    rw [← List.drop_drop, List.take_append_drop, List.take_append_drop]
  have hmem : ('\'' ∈ s.toList) = _ := congrArg ('\'' ∈ ·) hs
  rw [List.mem_append, List.mem_append, or_iff_right hnone] at hmem
  rw [quoteFree_trimList, quoteFree_trimList, QuoteFree, hmem, not_or]

theorem quoteFree_segments {path : String} :
    (∀ s ∈ segments path, QuoteFree s) ↔ QuoteFree path := by
  have hpath : ".".intercalate (segments path) = path := by
    rw [segments, ← String.toList_inj, String.toList_intercalate, List.map_map]
    simp only [Function.comp_def, String.toList_ofList, List.map_id']
    exact List.intercalate_splitOn '.'
  rw [← quoteFree_intercalate (by decide : QuoteFree "."), hpath]

/-! ### What is written -/

variable {c : Config}

theorem quoteFree_wrapValue {s : String} : QuoteFree (wrapValue c s) ↔ QuoteFree s :=
  not_congr (mem_wrapValue_iff (by decide) (by decide) (by decide) (by decide))

/-- What is written for the segments of a path, in a configuration whose table prefix may stand
before one of them. -/
theorem quoteFree_wrapSegments (hfront : QuoteFree c.tablePrefix) (parts : List String) :
    (∀ t ∈ wrapSegments c parts, QuoteFree t) ↔ ∀ s ∈ parts, QuoteFree s := by
  induction parts using wrapSegments.induct with
  | case1 => rfl
  | case2 column =>
    rw [wrapSegments, List.forall_mem_singleton, List.forall_mem_singleton, quoteFree_wrapValue]
  | case3 table column =>
    simp only [wrapSegments, List.forall_mem_cons, quoteFree_wrapValue, quoteFree_append, hfront,
      true_and]
  | case4 schema rest hsingle hpair ih =>
    rw [wrapSegments, List.forall_mem_cons, List.forall_mem_cons, quoteFree_wrapValue, ih]
    · exact hsingle
    · exact hpair

/-- **A column reference** brings the quotes of its name, beside those of the table prefix. -/
theorem quoteFree_wrap_iff (hfront : QuoteFree c.tablePrefix) {reference : String} :
    QuoteFree (wrap c reference) ↔ QuoteFree reference := by
  have hpath (path : String) : QuoteFree (wrapPath c path) ↔ QuoteFree path := by
    rw [wrapPath, quoteFree_intercalate (by decide), quoteFree_wrapSegments hfront,
      quoteFree_segments]
  rw [wrap]
  split
  · next expression shown halias =>
    rw [quoteFree_append, quoteFree_append, hpath, quoteFree_wrapValue,
      and_iff_left (by decide : QuoteFree " as "), quoteFree_of_splitAlias? halias]
  · exact hpath reference

/-- A table reference without its alias. -/
def tablePath (reference : String) : String :=
  ((splitAlias? reference).map Prod.fst).getD reference

/-- The texts from which a table reference is written: its own, the table prefix, and the schema of
the configuration when it names none itself. -/
def tableSources (c : Config) (reference : String) : List String :=
  reference :: c.tablePrefix ::
    if '.' ∈ (tablePath reference).toList then [] else c.schemaPrefix.toList

theorem quoteFree_wrapTablePath {path : String} :
    QuoteFree (wrapTablePath c path) ↔ QuoteFree path ∧ QuoteFree c.tablePrefix ∧
      ∀ s ∈ (if '.' ∈ path.toList then [] else c.schemaPrefix.toList), QuoteFree s := by
  rw [wrapTablePath]
  split
  · next schema name hcut =>
    have hpath : path = String.ofList schema ++ "." ++ String.ofList name := by
      rw [← String.toList_inj, Text.eq_of_breakOn hcut]
      simp
    have hdot : '.' ∈ path.toList := by rw [hpath]; simp
    rw [if_pos hdot, and_iff_left (List.forall_mem_nil _), quoteFree_append, quoteFree_append,
      quoteFree_wrapValue, quoteFree_wrapValue, quoteFree_append, and_left_comm, and_comm, hpath,
      quoteFree_append, quoteFree_append]
  · next hcut =>
    rw [if_neg (not_mem_of_breakOn hcut)]
    split
    · next schema hschema =>
      rw [hschema, Option.toList_some, List.forall_mem_singleton, quoteFree_append,
        quoteFree_append, quoteFree_wrapValue, quoteFree_wrapValue, quoteFree_append,
        and_iff_left (by decide : QuoteFree "."), and_comm,
        and_comm (a := QuoteFree c.tablePrefix), and_assoc]
    · next hschema =>
      rw [hschema, Option.toList_none, and_iff_left (List.forall_mem_nil _), quoteFree_wrapValue,
        quoteFree_append, and_comm]

/-- **A table reference** brings the quotes of its sources. -/
theorem quoteFree_wrapTable_iff {reference : String} :
    QuoteFree (wrapTable c reference) ↔ ∀ s ∈ tableSources c reference, QuoteFree s := by
  rw [tableSources, tablePath, List.forall_mem_cons, List.forall_mem_cons, wrapTable]
  split
  · next path shown halias =>
    rw [halias, quoteFree_append, quoteFree_append, quoteFree_wrapTablePath, quoteFree_wrapValue,
      and_iff_left (by decide : QuoteFree " "), quoteFree_of_splitAlias? halias, and_right_comm]
    rfl
  · next halias =>
    rw [halias]
    exact quoteFree_wrapTablePath

theorem quoteFree_qualify_iff {object : String} :
    QuoteFree (qualify c object) ↔ ∀ s ∈ object :: c.schemaPrefix.toList, QuoteFree s := by
  rw [List.forall_mem_cons, qualify]
  split
  · next schema hschema =>
    rw [hschema, quoteFree_append, quoteFree_append, quoteFree_wrapValue,
      and_iff_left (by decide : QuoteFree "."), and_comm]
    exact and_congr_right fun _ => List.forall_mem_singleton.symm
  · next hschema =>
    rw [hschema]
    exact (and_iff_left (List.forall_mem_nil _)).symm

end Identifier

end OracleSql
