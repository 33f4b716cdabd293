import Mathlib.Algebra.GroupWithZero.Nat
import Mathlib.Data.List.Nodup
import OracleSql.Dictionary.Report

/-!
# Indexes of rows

An index has one row for each of its columns, and the rows of several indexes may come in any order,
one between the other.  `indexReports` goes through them once and puts each row to what it has found
so far.  The first row decides where an index stands, and every other row of its name only adds a
column to it, wherever the row comes (`indexReports_cons`); so an index is told by the rows of its
name alone (`mem_indexReports`).

From this follow the results: there is one index for each name, none of the rows is lost, and rows
of different indexes can change places without a change to any index (`indexReports_lossless`).
-/

namespace OracleSql

/-! ### The rows of a name -/

namespace Row

def indexName (row : Row) : String :=
  row.lowerText "name"

/-- The column that a row puts to its index. -/
def indexColumn (row : Row) : String :=
  row.lowerText "column_name"

def ofIndex (name : String) (rows : List Row) : List Row :=
  rows.filter fun row => row.indexName == name

def ofOthers (name : String) (rows : List Row) : List Row :=
  rows.filter fun row => !row.indexName == name

variable {row : Row} {rows : List Row} {name : String}

theorem ofIndex_cons_self : ofIndex row.indexName (row :: rows) = row :: ofIndex row.indexName rows :=
  List.filter_cons_of_pos (beq_self_eq_true _)

theorem ofIndex_cons_of_ne (h : row.indexName ≠ name) : ofIndex name (row :: rows) = ofIndex name rows :=
  List.filter_cons_of_neg (by simpa using h)

theorem ofIndex_ofOthers {other : String} (h : other ≠ name) :
    ofIndex name (ofOthers other rows) = ofIndex name rows := by
  rw [ofIndex, ofIndex, ofOthers, List.filter_filter]
  refine List.filter_congr fun row _ => ?_
  by_cases hname : row.indexName = name
  · simp [hname, h.symm]
  · simp [hname]

theorem ofIndex_ofOthers_self : ofIndex name (ofOthers name rows) = [] := by
  rw [ofIndex, ofOthers, List.filter_filter, List.filter_eq_nil_iff]
  intro row _
  simp

theorem length_ofOthers_lt : (ofOthers row.indexName rows).length < (row :: rows).length :=
  Nat.lt_succ_of_le (List.length_filter_le _ _)

theorem length_ofIndex_add_ofOthers (name : String) (rows : List Row) :
    (ofIndex name rows).length + (ofOthers name rows).length = rows.length :=
  (List.length_eq_length_filter_add _).symm

end Row

/-- **The index of a name** as the rows of the name tell it: the column of each of them, and the rest
as the first of them says. -/
def indexOfRows? (rows : List Row) (name : String) : Option IndexReport :=
  (Row.ofIndex name rows).head?.map fun first =>
    { first.indexReport with columns := (Row.ofIndex name rows).map Row.indexColumn }

/-! ### One row after another -/

namespace IndexReport

/-- **The first index stays where it is** and takes up the columns of those of its name; the others
pass it by. -/
theorem foldl_gather_cons (first : IndexReport) (found is : List IndexReport) :
    is.foldl gather (first :: found)
      = { first with
          columns := first.columns ++ (is.filter (·.name == first.name)).flatMap columns }
        :: (is.filter (!·.name == first.name)).foldl gather found := by
  induction is generalizing first found with
  | nil => simp
  | cons i is ih =>
    rw [List.foldl_cons, gather]
    by_cases hname : first.name = i.name
    · rw [if_pos hname, ih, List.filter_cons_of_pos (by simp [hname]),
        List.filter_cons_of_neg (by simp [hname]), List.flatMap_cons, List.append_assoc]
    · rw [if_neg hname, ih, List.filter_cons_of_neg (by simpa using Ne.symm hname),
        List.filter_cons_of_pos (by simpa using Ne.symm hname), List.foldl_cons]

end IndexReport

/-- **The first row opens an index with all the rows of its name**, and the indexes behind it are those
of the other rows. -/
theorem indexReports_cons (row : Row) (rows : List Row) :
    indexReports (row :: rows)
      = { row.indexReport with
          columns := row.indexColumn :: (Row.ofIndex row.indexName rows).map Row.indexColumn }
        :: indexReports (Row.ofOthers row.indexName rows) := by
  rw [indexReports, List.map_cons, List.foldl_cons, IndexReport.gather,
    IndexReport.foldl_gather_cons, List.filter_map, List.filter_map, List.flatMap_map,
    List.map_eq_flatMap (f := Row.indexColumn)]
  rfl

theorem indexReports_nil : indexReports [] = [] := rfl

/-- **What holds of no rows, and of rows with the ones of other indexes, holds of all rows.** -/
theorem rows_by_index {motive : List Row → Prop} (nil : motive [])
    (cons : ∀ row rows, motive (Row.ofOthers row.indexName rows) → motive (row :: rows))
    (rows : List Row) : motive rows := by
  induction hn : rows.length using Nat.strongRecOn generalizing rows with
  | ind n ih =>
    cases rows with
    | nil => exact nil
    | cons row rows => exact cons row rows (ih _ (hn ▸ Row.length_ofOthers_lt) _ rfl)

/-! ### What a run gathers -/

/-- **One index for each name**, in the order in which the names first appear. -/
theorem map_name_indexReports (rows : List Row) :
    (indexReports rows).map (·.name) = (rows.map Row.indexName).eraseDups := by
  induction rows using rows_by_index with
  | nil => rfl
  | cons row rows ih =>
    rw [indexReports_cons, List.map_cons, ih, List.map_cons, List.eraseDups_cons, List.filter_map]
    rfl

/-- **No row is lost and none is counted twice.** -/
theorem sum_columns_indexReports (rows : List Row) :
    ((indexReports rows).map (·.columns.length)).sum = rows.length := by
  induction rows using rows_by_index with
  | nil => rfl
  | cons row rows ih =>
    rw [indexReports_cons, List.map_cons, List.sum_cons, ih, List.length_cons, List.length_map,
      List.length_cons]
    have := Row.length_ofIndex_add_ofOthers row.indexName rows
    omega

/-- **The indexes are those that the rows of their names tell.** -/
theorem mem_indexReports {rows : List Row} {i : IndexReport} :
    i ∈ indexReports rows ↔ indexOfRows? rows i.name = some i := by
  induction rows using rows_by_index with
  | nil => simp [indexReports_nil, indexOfRows?, Row.ofIndex]
  | cons row rows ih =>
    rw [indexReports_cons, List.mem_cons, ih, indexOfRows?, indexOfRows?]
    by_cases hname : row.indexName = i.name
    · rw [← hname, Row.ofIndex_ofOthers_self, Row.ofIndex_cons_self]
      simp [eq_comm]
    · have hhead : i ≠ { row.indexReport with
          columns := row.indexColumn :: (Row.ofIndex row.indexName rows).map Row.indexColumn } := by
        rintro rfl
        exact hname rfl
      rw [Row.ofIndex_cons_of_ne hname, Row.ofIndex_ofOthers hname]
      simp [hhead]

theorem nodup_names_indexReports (rows : List Row) : ((indexReports rows).map (·.name)).Nodup := by
  induction rows using rows_by_index with
  | nil => exact List.nodup_nil
  | cons row rows ih =>
    rw [indexReports_cons, List.map_cons, List.nodup_cons]
    refine ⟨?_, ih⟩
    rw [map_name_indexReports, List.mem_eraseDups, List.mem_map]
    rintro ⟨other, hother, hname⟩
    have hne : (!other.indexName == row.indexName) = true := (List.mem_filter.mp hother).2
    rw [show other.indexName = row.indexName from hname, beq_self_eq_true] at hne
    cases hne

/-! ### Rows that change places -/

/-- Rows of two indexes do not see each other. -/
theorem Row.ofIndex_swap {a b : Row} (h : a.indexName ≠ b.indexName) (name : String)
    (before after : List Row) :
    ofIndex name (before ++ b :: a :: after) = ofIndex name (before ++ a :: b :: after) := by
  simp only [ofIndex, List.filter_append]
  refine congrArg (before.filter _ ++ ·) ?_
  by_cases ha : a.indexName = name
  · have hb : b.indexName ≠ name := fun hb => h (ha.trans hb.symm)
    simp [ha, hb]
  · simp [List.filter_cons, ha]

/-- **Rows of two indexes may change places**: the same indexes are there. -/
theorem indexReports_swap {a b : Row} (h : a.indexName ≠ b.indexName) (before after : List Row) :
    (indexReports (before ++ b :: a :: after)).Perm (indexReports (before ++ a :: b :: after)) := by
  have hnodup (rows : List Row) : (indexReports rows).Nodup :=
    (nodup_names_indexReports rows).of_map
  rw [List.perm_ext_iff_of_nodup (hnodup _) (hnodup _)]
  intro i
  rw [mem_indexReports, mem_indexReports, indexOfRows?, indexOfRows?, Row.ofIndex_swap h]

/-- **Rows of indexes are gathered without loss**, however the indexes are mixed.  There is one index
for each name in lower case, in the order in which the names first appear.  It has the columns of
all the rows of its name in the order of the rows, so the columns are as many as the rows, and its
type and flags are those of the first of them.  Two neighbouring rows of different indexes can change
places, and every index stays as it is; only their order may be another. -/
theorem indexReports_lossless (rows : List Row) :
    (indexReports rows).map (·.name) = (rows.map Row.indexName).eraseDups ∧
      (∀ i ∈ indexReports rows, ∃ first, (Row.ofIndex i.name rows).head? = some first ∧
        i.columns = (Row.ofIndex i.name rows).map Row.indexColumn ∧
        i.indexType = first.lowerText "type" ∧ i.unique = first.flag "unique" ∧
        i.primary = first.flag "primary") ∧
      ((indexReports rows).map (·.columns.length)).sum = rows.length ∧
      ∀ before a b after, rows = before ++ a :: b :: after → a.indexName ≠ b.indexName →
        (indexReports (before ++ b :: a :: after)).Perm (indexReports rows) := by
  refine ⟨map_name_indexReports rows, ?_, sum_columns_indexReports rows, ?_⟩
  · intro i hi
    obtain ⟨first, hfirst, heq⟩ := Option.map_eq_some_iff.mp (mem_indexReports.mp hi)
    refine ⟨first, hfirst, ?_⟩
    -- The name of the index stands in the equation too, so the fields are compared one by one.
    rw [IndexReport.mk.injEq] at heq
    obtain ⟨-, hcolumns, htype, hunique, hprimary⟩ := heq
    exact ⟨hcolumns.symm, htype.symm, hunique.symm, hprimary.symm⟩
  · rintro before a b after rfl hname
    exact indexReports_swap hname before after

/-- A key on two columns, with the row of another index between them and a name in two cases. -/
theorem indexReports_lossless_interleaved :
    let first : Row := [("NAME", .text "USERS_PK"), ("COLUMN_NAME", .text "TENANT"),
      ("TYPE", .text "NORMAL"), ("UNIQUE", .text "yes"), ("PRIMARY", .int 1)]
    let between : Row := [("name", .text "users_email"), ("column_name", .text "EMAIL")]
    let second : Row := [("name", .text "users_pk"), ("column_name", .text "ID")]
    first.indexName ≠ between.indexName ∧
      indexReports [first, between, second] =
        [⟨"users_pk", ["tenant", "id"], "normal", true, true⟩,
          ⟨"users_email", ["email"], "", false, false⟩] ∧
      (indexReports [between, first, second]).Perm (indexReports [first, between, second]) := by
  intro first between second
  have hname : first.indexName ≠ between.indexName := by decide +kernel
  refine ⟨hname, by decide +kernel, ?_⟩
  exact (indexReports_lossless [first, between, second]).2.2.2 [] first between [second] rfl hname

end OracleSql
