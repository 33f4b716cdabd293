import Mathlib.Data.List.Forall2
import Mathlib.Data.List.Nodup
import OracleSql.Dictionary.Report

/-!
# Names in any case

Drivers report the names of columns in different cases, and in no order that means anything.  Two
rows that differ in nothing else have the same fields (`Row.SameButCase.field?_eq`), if no two names
of a row are the same but for the case.  Every view of a field and every report looks at a row
through its fields alone, so the reports on both are the same (`reports_ignore_case`).

The one that does not is the count without a field of that name: it takes the first unsigned number
that comes, and has to be told that there is no other.
-/

namespace OracleSql.Row

/-! ### Rows and their fields -/

/-- A member with its name in lower case. -/
def folded (member : String × Json) : String × Json :=
  (Text.asciiLower member.1, member.2)

/-- **Two rows that differ only in the ASCII case of their names.**  A row has no order, so that of
its members may differ too. -/
def SameButCase (row row' : Row) : Prop :=
  (row.map folded).Perm (row'.map folded)

/-- No two names of a row are the same but for the case. -/
def DistinctNames (row : Row) : Prop :=
  (row.map fun member => Text.asciiLower member.1).Nodup

instance (row : Row) : Decidable row.DistinctNames :=
  inferInstanceAs (Decidable (List.Nodup _))

variable {row row' : Row}

theorem map_fst_folded (row : Row) :
    (row.map folded).map Prod.fst = row.map fun member => Text.asciiLower member.1 :=
  List.map_map

theorem SameButCase.distinctNames (h : row.SameButCase row') (hrow : row.DistinctNames) :
    row'.DistinctNames := by
  have hnames := h.map Prod.fst
  rw [map_fst_folded, map_fst_folded] at hnames
  exact hnames.nodup_iff.mp hrow

theorem DistinctNames.eq_of_mem (h : row.DistinctNames) {a b : String × Json} (ha : a ∈ row)
    (hb : b ∈ row) (hname : Text.asciiLower a.1 = Text.asciiLower b.1) : a = b :=
  List.inj_on_of_nodup_map h ha hb hname

/-- **A field is the member of its name**, in whatever case the name is written. -/
theorem DistinctNames.field?_eq_some_iff (h : row.DistinctNames) {key : String} {v : Json} :
    row.field? key = some v ↔ (Text.asciiLower key, v) ∈ row.map folded := by
  rw [List.mem_map, field?]
  constructor
  · intro hfield
    split at hfield
    · next w hlookup =>
      cases hfield
      obtain ⟨before, after, hrow, -⟩ := List.lookup_eq_some_iff.mp hlookup
      exact ⟨(key, v), by simp [hrow], rfl⟩
    · obtain ⟨member, hfind, rfl⟩ := Option.map_eq_some_iff.mp hfield
      have hsame := List.find?_some hfind
      exact ⟨member, List.mem_of_find?_eq_some hfind,
        Prod.ext (Text.sameIgnoringCase_iff.mp hsame) rfl⟩
  · rintro ⟨member, hmember, hfolded⟩
    obtain ⟨hname, rfl⟩ := Prod.mk.inj hfolded
    split
    · next w hlookup =>
      obtain ⟨before, after, hrow, -⟩ := List.lookup_eq_some_iff.mp hlookup
      have hkey : (key, w) ∈ row := by simp [hrow]
      rw [h.eq_of_mem hmember hkey hname]
    · cases hfind : row.find? fun p => Text.sameIgnoringCase p.1 key with
      | none =>
        have hnot := List.find?_eq_none.mp hfind member hmember
        exact absurd (Text.sameIgnoringCase_iff.mpr hname) hnot
      | some found =>
        have hsame := List.find?_some hfind
        rw [h.eq_of_mem (List.mem_of_find?_eq_some hfind) hmember
          ((Text.sameIgnoringCase_iff.mp hsame).trans hname.symm)]
        rfl

/-- **Rows that differ only in case have the same fields.** -/
theorem SameButCase.field?_eq (h : row.SameButCase row') (hrow : row.DistinctNames) :
    row.field? = row'.field? := by
  funext key
  refine Option.ext fun v => ?_
  rw [hrow.field?_eq_some_iff, (h.distinctNames hrow).field?_eq_some_iff, h.mem_iff]

/-! ### Views of the fields -/

section Fields

variable (h : row.field? = row'.field?)

include h

theorem text?_congr (key : String) : row.text? key = row'.text? key := by
  rw [text?, text?, h]

theorem number?_congr (key : String) : row.number? key = row'.number? key := by
  rw [number?, number?, h]

theorem flag_congr (key : String) : row.flag key = row'.flag key := by
  rw [flag, flag, h]

theorem lowerText_congr (key : String) : row.lowerText key = row'.lowerText key := by
  rw [lowerText, lowerText, text?_congr h]

theorem names_congr (key : String) : row.names key = row'.names key := by
  rw [names, names, text?_congr h]

theorem declaredType_congr (name : String) : row.declaredType name = row'.declaredType name := by
  simp only [declaredType, textLength?, number?_congr h]

theorem columnReport_congr : row.columnReport = row'.columnReport := by
  simp only [columnReport, lowerText_congr h, declaredType_congr h, flag_congr h, text?_congr h]

theorem indexReport_congr : row.indexReport = row'.indexReport := by
  simp only [indexReport, lowerText_congr h, flag_congr h]

theorem foreignKeyReport_congr : row.foreignKeyReport = row'.foreignKeyReport := by
  simp only [foreignKeyReport, lowerText_congr h, names_congr h]

theorem tableReport_congr : row.tableReport = row'.tableReport := by
  simp only [tableReport, lowerText_congr h, number?_congr h, text?_congr h]

end Fields

/-! ### The count -/

/-- The unsigned integers among the values of a row. -/
def unsignedIntegers (row : Row) : List UInt64 :=
  row.filterMap fun
    | (_, .int n) => uint64OfInt? n
    | _ => none

/-- The count of a row does not depend on the order of its members: it has a field for it, or no two
unsigned integers. -/
def CountKnown (row : Row) : Prop :=
  (row.number? "count").isSome = true ∨ row.unsignedIntegers.length ≤ 1

theorem firstCount?_eq (row : Row) : row.firstCount? = row.unsignedIntegers.head? := by
  rw [unsignedIntegers, List.head?_filterMap]
  rfl

theorem unsignedIntegers_folded (row : Row) :
    unsignedIntegers (row.map folded) = row.unsignedIntegers := by
  rw [unsignedIntegers, unsignedIntegers, List.filterMap_map]
  refine List.filterMap_congr fun member _ => ?_
  obtain ⟨name, j⟩ := member
  cases j <;> rfl

/-- A list of at most one item has one order only. -/
theorem eq_of_perm_of_length_le_one {α : Type} {as bs : List α} (h : as.Perm bs)
    (hlength : as.length ≤ 1) : as = bs := by
  match as, hlength with
  | [], _ => exact h.nil_eq
  | [a], _ => exact List.singleton_perm.mp h

/-- **The count of the first row is the same** when it is known. -/
theorem SameButCase.count_eq (h : row.SameButCase row') (hrow : row.DistinctNames)
    (hcount : row.CountKnown) (rows rows' : List Row) :
    count (row :: rows) = count (row' :: rows') := by
  rw [count, count, ← number?_congr (h.field?_eq hrow)]
  rcases hcount with hcount | hcount
  · obtain ⟨n, hn⟩ := Option.isSome_iff_exists.mp hcount
    rw [hn]
    rfl
  · have hperm : row.unsignedIntegers.Perm row'.unsignedIntegers := by
      rw [← unsignedIntegers_folded row, ← unsignedIntegers_folded row']
      exact h.filterMap _
    rw [firstCount?_eq, firstCount?_eq, eq_of_perm_of_length_le_one hperm hcount]

/-! ### Lists of rows -/

/-- What is told of each row by its fields is the same of rows with the same fields. -/
theorem map_congr_field? {β : Type} {view : Row → β}
    (hview : ∀ {row row' : Row}, row.field? = row'.field? → view row = view row')
    {rows rows' : List Row} (h : List.Forall₂ SameButCase rows rows')
    (hrows : ∀ row ∈ rows, row.DistinctNames) : rows.map view = rows'.map view := by
  induction h with
  | nil => rfl
  | cons hrow _ ih =>
    obtain ⟨hdistinct, hrows⟩ := List.forall_mem_cons.mp hrows
    rw [List.map_cons, List.map_cons, hview (hrow.field?_eq hdistinct), ih hrows]

end Row

/-- **Reports do not depend on the case in which names come.**  On two lists of rows that differ only
in the ASCII case of their names, where no two names of a row are the same but for the case, the
listing of columns and the reports on columns, indexes, foreign keys and tables are the same; and the
count is, if the first row has a field for it that is a number, or no two unsigned integers. -/
theorem reports_ignore_case {rows rows' : List Row} (h : List.Forall₂ Row.SameButCase rows rows')
    (hrows : ∀ row ∈ rows, row.DistinctNames) :
    Row.columnListing rows = Row.columnListing rows' ∧
      rows.map Row.columnReport = rows'.map Row.columnReport ∧
      indexReports rows = indexReports rows' ∧
      rows.map Row.foreignKeyReport = rows'.map Row.foreignKeyReport ∧
      rows.map Row.tableReport = rows'.map Row.tableReport ∧
      ((∀ row ∈ rows.head?, row.CountKnown) → Row.count rows = Row.count rows') := by
  refine ⟨Row.map_congr_field? (fun hfield => Row.lowerText_congr hfield _) h hrows,
    Row.map_congr_field? Row.columnReport_congr h hrows, ?_,
    Row.map_congr_field? Row.foreignKeyReport_congr h hrows,
    Row.map_congr_field? Row.tableReport_congr h hrows, ?_⟩
  · rw [indexReports, indexReports, Row.map_congr_field? Row.indexReport_congr h hrows]
  · intro hcount
    cases h with
    | nil => rfl
    | cons hrow _ => exact hrow.count_eq (hrows _ List.mem_cons_self) (hcount _ rfl) _ _

/-- A row in two cases and two orders, with a type that takes its length from another field, and a
count that is not called so. -/
theorem reports_ignore_case_upper :
    let row : Row := [("name", .text "EMAIL"), ("type_name", .text "VARCHAR2"),
      ("char_length", .int 100), ("nullable", .text "Y")]
    let row' : Row := [("NULLABLE", .text "Y"), ("Char_Length", .int 100),
      ("TYPE_NAME", .text "VARCHAR2"), ("NAME", .text "EMAIL")]
    List.Forall₂ Row.SameButCase [row] [row'] ∧ (∀ r ∈ [row], r.DistinctNames) ∧
      (∀ r ∈ [row].head?, r.CountKnown) ∧
      [row'].map Row.columnReport
        = [⟨"email", "varchar2", "varchar2(100)", true, none, none⟩] ∧
      Row.count [row'] = 100 := by
  intro row row'
  have hsame : List.Forall₂ Row.SameButCase [row] [row'] := by
    have hfolded : row'.map Row.folded = (row.map Row.folded).reverse := by
      simp only [row, row', Row.folded, List.map_cons, List.map_nil, List.reverse_cons,
        List.reverse_nil, List.nil_append, List.cons_append, List.cons.injEq, Prod.mk.injEq,
        and_true]
      decide +kernel
    refine .cons ?_ .nil
    rw [Row.SameButCase, hfolded]
    exact (List.reverse_perm _).symm
  have hrows : ∀ r ∈ [row], r.DistinctNames := by decide +kernel
  have hcount : ∀ r ∈ [row].head?, r.CountKnown := by
    rintro r ⟨⟩
    exact Or.inr (by decide +kernel)
  obtain ⟨-, hcolumns, -, -, -, hcounts⟩ := reports_ignore_case hsame hrows
  refine ⟨hsame, hrows, hcount, ?_, ?_⟩
  · rw [← hcolumns]
    decide +kernel
  · rw [← hcounts hcount]
    rfl

end OracleSql
