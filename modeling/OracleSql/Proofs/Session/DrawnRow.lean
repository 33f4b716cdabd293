import OracleSql.Proofs.Session.Refusals
import OracleSql.Proofs.Write.Batch
import OracleSql.Proofs.Write.Outputs

/-!
# The row that is inserted with a drawn key

A key that has been drawn is put in front of the row, in place of whatever the row had for it.
`RowValues.drawn` is the row as it is then inserted: of a column that is named more than once the
first value is taken each time, so nothing is lost unless the values differ
(`RowValues.kept_eq_others_iff`).

`Insert.rowStatement` is the statement that inserts one row, with empty large objects behind it.  An
insert with its drawn key compiles to it (`Insert.result_compileGetId_withKey`,
`Insert.result_compileBlobs_withKey`), and so does one of large objects alone
(`Insert.statement_blobsSql`).
-/

namespace OracleSql

open Identifier Step

/-! ### One row with its values -/

namespace RowValues

/-- The columns of a row that are not the key, with their values. -/
def others (key : String) (row : RowValues) : RowValues :=
  row.filter fun p => !Text.sameIgnoringCase p.1 key

/-- The same columns with the values that they are inserted with, the first ones given. -/
def kept (key : String) (row : RowValues) : RowValues :=
  (row.others key).map fun p => (p.1, (row.value? p.1).getD p.2)

theorem mem_others {key : String} {row : RowValues} {p : String × Value} :
    p ∈ row.others key ↔ p ∈ row ∧ Text.sameIgnoringCase p.1 key = false := by
  rw [others, List.mem_filter, Bool.not_eq_true']

/-- All values are kept unless a column is named again with another one. -/
theorem kept_eq_others_iff {key : String} {row : RowValues} :
    row.kept key = row.others key ↔
      ∀ p ∈ row, Text.sameIgnoringCase p.1 key = false → row.value? p.1 = some p.2 := by
  have hvalue {p : String × Value} (hp : p ∈ row) :
      (p.1, (row.value? p.1).getD p.2) = p ↔ row.value? p.1 = some p.2 := by
    obtain ⟨v, hv⟩ := exists_value?_of_mem_columns (List.mem_map_of_mem hp : p.1 ∈ row.columns)
    rw [hv, Option.getD_some, Prod.ext_iff, and_iff_right rfl, Option.some.injEq]
  have hpointwise := List.map_inj_left (l := row.others key)
    (f := fun p => (p.1, (row.value? p.1).getD p.2)) (g := id)
  rw [List.map_id] at hpointwise
  rw [kept, hpointwise]
  constructor
  · intro h p hp hother
    exact (hvalue hp).mp (h p (mem_others.mpr ⟨hp, hother⟩))
  · intro h p hp
    obtain ⟨hp, hother⟩ := mem_others.mp hp
    exact (hvalue hp).mpr (h p hp hother)

theorem lookup_others {key column : String} (h : Text.sameIgnoringCase column key = false)
    (row : RowValues) : (row.others key).lookup column = row.lookup column := by
  rw [others]
  induction row with
  | nil => rfl
  | cons p row ih =>
    obtain ⟨other, v⟩ := p
    by_cases hsame : Text.sameIgnoringCase other key = true
    · have hne : (column == other) = false := beq_eq_false_iff_ne.mpr fun heq => by
        rw [heq, hsame] at h
        cases h
      rw [List.filter_cons_of_neg (by simpa using hsame), ih, List.lookup_cons, hne]
    · rw [List.filter_cons_of_pos (by simpa using hsame), List.lookup_cons, List.lookup_cons, ih]

/-- The values of a row in the order of its own columns, the first one for each. -/
theorem mapM_value?_columns (row : RowValues) :
    row.columns.mapM row.value?
      = some (row.map fun p => (row.value? p.1).getD p.2) := by
  refine mapM_value?_eq_some_iff.mpr
    ⟨row.map fun p => (p.1, (row.value? p.1).getD p.2), ?_, ?_, ?_⟩
  · rw [columns, columns, List.map_map]
    rfl
  · rw [List.map_map]
    rfl
  · refine List.forall_mem_map.mpr fun p hp => ?_
    obtain ⟨v, hv⟩ := exists_value?_of_mem_columns (List.mem_map_of_mem hp : p.1 ∈ row.columns)
    rw [hv]
    rfl

/-- The row that is inserted for a row with a drawn key: the key in front, and the other columns
behind it. -/
def drawn (key : String) (n : Int64) (row : RowValues) : RowValues :=
  (key, .int n) :: row.kept key

theorem filter_key_drawn (key : String) (n : Int64) (row : RowValues) :
    ((row.drawn key n).filter fun p => Text.sameIgnoringCase p.1 key) = [(key, .int n)] := by
  rw [drawn, List.filter_cons, if_pos (Text.sameIgnoringCase_refl key), List.cons_inj_right,
    List.filter_eq_nil_iff]
  intro p hp
  obtain ⟨q, hq, rfl⟩ := List.mem_map.mp hp
  exact ne_true_of_eq_false (mem_others.mp hq).2

theorem others_drawn (key : String) (n : Int64) (row : RowValues) :
    (row.drawn key n).others key = row.kept key := by
  have hkey : ¬(!Text.sameIgnoringCase key key) = true := by
    rw [Text.sameIgnoringCase_refl]
    exact Bool.false_ne_true
  rw [drawn, others, List.filter_cons, if_neg hkey, List.filter_eq_self]
  intro p hp
  obtain ⟨q, hq, rfl⟩ := List.mem_map.mp hp
  exact (List.mem_filter.mp hq).2

theorem putKey_eq (key : String) (n : Int64) (row : RowValues) :
    putKey key n row = (key, .int n) :: row.others key := rfl

theorem columns_drawn (key : String) (n : Int64) (row : RowValues) :
    (row.drawn key n).columns = (putKey key n row).columns := by
  rw [putKey_eq, drawn, kept, columns, columns, List.map_cons, List.map_cons, List.map_map]
  rfl

theorem value?_putKey (key : String) (n : Int64) (row : RowValues) :
    ((putKey key n row).map fun p => ((putKey key n row).value? p.1).getD p.2)
      = (row.drawn key n).map Prod.snd := by
  have hkey : (putKey key n row).value? key = some (.int n) := by
    rw [value?, putKey_eq, List.lookup_cons, beq_self_eq_true]
  have hother {p : String × Value} (hp : p ∈ row.others key) :
      (putKey key n row).value? p.1 = row.value? p.1 := by
    have hdiffers := (mem_others.mp hp).2
    have hne : (p.1 == key) = false := beq_eq_false_iff_ne.mpr fun heq => by
      rw [heq, Text.sameIgnoringCase_refl] at hdiffers
      cases hdiffers
    rw [value?, putKey_eq, List.lookup_cons, hne]
    exact lookup_others hdiffers row
  -- Taking the row apart must not take the row apart in which the values are looked up.
  generalize (putKey key n row).value? = found at hkey hother
  rw [putKey_eq, List.map_cons, hkey, drawn, kept, List.map_cons, List.map_map]
  refine congrArg (List.cons _) (List.map_congr_left fun p hp => ?_)
  rw [hother hp]
  rfl

/-- **A row with a drawn key is arranged** with all its other columns. -/
theorem result_arrangeRows_putKey (key : String) (n : Int64) (row : RowValues) :
    (arrangeRows [putKey key n row]).result
      = .ok ((row.drawn key n).columns, [(row.drawn key n).map Prod.snd]) := by
  have hlength : (putKey key n row).length = (putKey key n row).columns.length := by
    rw [columns, List.length_map]
  have hrow : arrangeRow? (putKey key n row).columns (putKey key n row)
      = some ((row.drawn key n).map Prod.snd) := by
    rw [arrangeRow?, if_pos hlength, mapM_value?_columns, value?_putKey]
  refine arrangeRows_eq_ok.mpr ⟨_, [], rfl, columns_drawn key n row, ?_⟩
  rw [arrange, hrow]
  rfl

end RowValues

/-! ### The statement of one row -/

namespace Insert

/-- The text that inserts one row and empty large objects behind it. -/
def rowSql (c : Config) (table : String) (binary : BinaryColumns) (values : RowValues) : String :=
  insertHead c table (values.columns ++ binary.map Prod.fst) ++ " values ("
    ++ ", ".intercalate (values.map (fun p => p.2.placeholder)
      ++ binary.map fun _ => "EMPTY_BLOB()") ++ ")"

/-- The statement that inserts one row; with large objects it returns their locators and the key. -/
def rowStatement (c : Config) (i : Insert) (binary : BinaryColumns) (values : RowValues) :
    Statement :=
  if binary = [] then ⟨rowSql c i.table [] values, values.bound, []⟩
  else
    ⟨rowSql c i.table binary values ++ " returning "
        ++ columnList c (binary.map Prod.fst ++ [i.keyColumn]) ++ " into "
        ++ ", ".intercalate ((locatorBinds binary i.keyColumn).map fun _ => "?"),
      values.bound, locatorBinds binary i.keyColumn⟩

/-- **The request that inserts one row.** -/
def rowRequest (c : Config) (i : Insert) (binary : BinaryColumns) (values : RowValues) : Request :=
  let statement := i.rowStatement c binary values
  if binary = [] then .execute statement.numberedSql statement.params
  else .returning statement.numberedSql statement.params statement.outputs

theorem text_ofOuts (binds : List OutBinding) :
    (Sql.ofOuts binds).text = ", ".intercalate (binds.map fun _ => "?") := by
  rw [Sql.ofOuts, Sql.text_joined, List.map_map]
  rfl

theorem params_ofOuts (binds : List OutBinding) : (Sql.ofOuts binds).params = [] := by
  rw [Sql.ofOuts, Sql.params, Sql.flatMap_joined rfl, List.flatMap_map]
  exact List.flatMap_eq_nil_iff.mpr fun _ _ => rfl

/-- The values of a row with an empty large object behind them for each binary column. -/
def blobItems (binary : BinaryColumns) (values : RowValues) : List Sql :=
  (values.map Prod.snd).map Sql.ofValue
    ++ (binary.map Prod.fst).map fun _ => Sql.ofText "EMPTY_BLOB()"

theorem text_blobItems (binary : BinaryColumns) (values : RowValues) :
    (Sql.joined ", " (blobItems binary values)).text
      = ", ".intercalate (values.map (fun p => p.2.placeholder)
        ++ binary.map fun _ => "EMPTY_BLOB()") := by
  have hvalue (v : Value) : (Sql.ofValue v).text = v.placeholder := by
    simp [Sql.text, Sql.ofValue, Piece.sql]
  rw [Sql.text_joined, blobItems, List.map_append, List.map_map, List.map_map, List.map_map,
    List.map_map]
  refine congrArg _ (congrArg₂ _ (List.map_congr_left fun p _ => hvalue p.2) ?_)
  exact List.map_congr_left fun _ _ => Sql.text_ofText _

theorem params_blobItems (binary : BinaryColumns) (values : RowValues) :
    (Sql.joined ", " (blobItems binary values)).params = values.bound := by
  have hempty : (((binary.map Prod.fst).map fun _ => Sql.ofText "EMPTY_BLOB()").flatMap
      fun s => s.flatMap Piece.params) = [] := by
    rw [List.flatMap_map]
    exact List.flatMap_eq_nil_iff.mpr fun _ _ => rfl
  have hvalues := params_ofValues_eq_bound values
  rw [Sql.ofValues, Sql.params, Sql.flatMap_joined rfl] at hvalues
  rw [Sql.params, Sql.flatMap_joined rfl, blobItems, List.flatMap_append, hempty, List.append_nil,
    hvalues]

/-- **An insert of large objects** with the given row, which may be empty. -/
theorem statement_blobsSql (c : Config) {i : Insert} (hbinary : i.binaryColumns ≠ [])
    (values : RowValues) :
    (i.blobsSql c values.columns (values.map Prod.snd)).statement
      = i.rowStatement c i.binaryColumns values := by
  have hbody : i.blobsBody c values.columns (values.map Prod.snd)
      = insertHead c i.table (values.columns ++ i.binaryColumns.map Prod.fst) ++ " values ("
        ++ Sql.joined ", " (blobItems i.binaryColumns values)
        ++ (") returning " ++ columnList c (i.binaryColumns.map Prod.fst ++ [i.keyColumn])
          ++ " into ") := rfl
  have hclose (x : String) : ")" ++ (" returning " ++ x) = ") returning " ++ x :=
    String.append_assoc.symm
  have htext : (i.blobsSql c values.columns (values.map Prod.snd)).text
      = rowSql c i.table i.binaryColumns values ++ " returning "
        ++ columnList c (i.binaryColumns.map Prod.fst ++ [i.keyColumn]) ++ " into "
        ++ ", ".intercalate ((locatorBinds i.binaryColumns i.keyColumn).map fun _ => "?") := by
    rw [blobsSql, Sql.text_append, text_ofOuts, hbody]
    simp only [Sql.text_append, Sql.text_ofText, text_blobItems, rowSql, String.append_assoc,
      hclose]
  have hparams : (i.blobsSql c values.columns (values.map Prod.snd)).params = values.bound := by
    rw [blobsSql, Sql.params_append, params_ofOuts, List.append_nil, hbody]
    simp only [Sql.params_append, Sql.params_ofText, params_blobItems, List.append_nil,
      List.nil_append]
  have houtputs : (i.blobsSql c values.columns (values.map Prod.snd)).outputs
      = locatorBinds i.binaryColumns i.keyColumn := by
    rw [blobsSql, Sql.outputs_append, outputs_blobsBody, Sql.outputs_ofOuts, List.nil_append]
  rw [Sql.statement, htext, hparams, houtputs, rowStatement, if_neg hbinary]

/-! ### The statement with the drawn key -/

section
variable (c : Config) {i : Insert} {row : RowValues} (hrows : i.rows = [row]) (n : Int64)
include hrows

theorem rows_withKey : (i.withKey n).rows = [putKey i.keyColumn n row] := by
  rw [withKey, hrows]
  rfl

theorem length_rows_withKey : (i.withKey n).rows.length ≤ 1 := by
  rw [rows_withKey hrows]
  exact Nat.le_refl 1

theorem hasExplicitKey_withKey : (i.withKey n).hasExplicitKey = true := by
  have hsame : Text.sameIgnoringCase i.keyColumn i.keyColumn = true :=
    Text.sameIgnoringCase_refl _
  rw [hasExplicitKey, rows_withKey hrows, List.head?_cons, Option.any_some]
  change rowHasKey i.keyColumn (putKey i.keyColumn n row) = true
  rw [rowHasKey, RowValues.putKey_eq, List.any_cons]
  dsimp only
  rw [hsame]
  rfl

theorem result_arrangeRows_withKey :
    (arrangeRows (i.withKey n).rows).result
      = .ok ((row.drawn i.keyColumn n).columns, [(row.drawn i.keyColumn n).map Prod.snd]) := by
  rw [rows_withKey hrows]
  exact RowValues.result_arrangeRows_putKey i.keyColumn n row

/-- **The statement of an insert with its drawn key.** -/
theorem result_compileGetId_withKey :
    ((i.withKey n).compileGetId c).result
      = .ok (i.rowStatement c [] (row.drawn i.keyColumn n)) := by
  have hplain := plain_eq_ok (c := c).mpr
    ⟨_, _, result_arrangeRows_withKey hrows n, List.cons_ne_nil _ _, rfl⟩
  have hreturning := returningKey_eq_ok.mpr ⟨length_rows_withKey hrows n, _, hplain, rfl⟩
  rw [if_pos (hasExplicitKey_withKey hrows n)] at hreturning
  refine Compile.result_bind_eq_ok.mpr ⟨_, hreturning, ?_⟩
  have hclause := text_rowsClause [row.drawn i.keyColumn n]
  have hparams := params_rowsClause [row.drawn i.keyColumn n]
  rw [List.map_singleton] at hclause hparams
  rw [Sql.statement, outputs_plain hplain, Sql.text_append, Sql.text_ofText, hclause,
    Sql.params_append, Sql.params_ofText, hparams, List.flatMap_singleton]
  have htext : rowSql c i.table [] (row.drawn i.keyColumn n)
      = insertHead c i.table (row.drawn i.keyColumn n).columns
        ++ RowValues.rowsText [row.drawn i.keyColumn n] := by
    simp only [rowSql, RowValues.rowsText, RowValues.shown, List.map_nil, List.append_nil,
      String.append_assoc]
  rw [rowStatement, if_pos rfl, htext]
  rfl

/-- **The statement of an insert of large objects with its drawn key.** -/
theorem result_compileBlobs_withKey (hbinary : i.binaryColumns ≠ []) :
    ((i.withKey n).compileBlobs c).result
      = .ok (i.rowStatement c i.binaryColumns (row.drawn i.keyColumn n)) := by
  have hrow : (blobRow (i.withKey n).rows).result
      = .ok ((row.drawn i.keyColumn n).columns, [(row.drawn i.keyColumn n).map Prod.snd]) := by
    rw [rows_withKey hrows]
    exact RowValues.result_arrangeRows_putKey i.keyColumn n row
  refine (compileBlobs_eq_ok (i := i.withKey n) hbinary).mpr
    ⟨length_rows_withKey hrows n, _, _, hrow, ?_⟩
  exact (statement_blobsSql c (i := i.withKey n) hbinary _).symm

end

end Insert

end OracleSql
