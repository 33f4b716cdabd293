import OracleSql.Write.Compile

/-!
# What the compilation of a write accepts

The compilations of `Write/Compile.lean` refuse some descriptions and go on otherwise.  For each of
them one theorem says when it yields a result and what the result then is, so that what follows
never looks at the refusals again.
-/

namespace OracleSql

open Identifier

theorem exists_value?_of_mem_columns {row : RowValues} {column : String}
    (h : column ∈ row.columns) : ∃ v, row.value? column = some v := by
  obtain ⟨⟨name, v⟩, hmem, rfl⟩ := List.mem_map.mp h
  rw [← Option.ne_none_iff_exists', RowValues.value?]
  intro hnone
  simpa using List.lookup_eq_none_iff.mp hnone _ hmem

theorem exists_mapM_value? {row : RowValues} {columns : List String}
    (h : ∀ column ∈ columns, ∃ v, row.value? column = some v) :
    ∃ values, columns.mapM row.value? = some values := by
  induction columns with
  | nil => exact ⟨[], rfl⟩
  | cons column rest ih =>
    obtain ⟨v, hv⟩ := h column List.mem_cons_self
    obtain ⟨values, hvalues⟩ := ih fun c hc => h c (List.mem_cons_of_mem _ hc)
    exact ⟨v :: values, by rw [List.mapM_cons, hv, hvalues]; rfl⟩

theorem arrangeRows_eq_ok {rows : List RowValues} {columns : List String}
    {arranged : List (List Value)} :
    (arrangeRows rows).result = .ok (columns, arranged) ↔
      ∃ first rest, rows = first :: rest ∧ columns = first.columns ∧
        (arrange first.columns 0 rows).result = .ok arranged := by
  cases rows with
  | nil => simp [arrangeRows]
  | cons first rest =>
    simp only [arrangeRows, Compile.result_bind_eq_ok, Compile.result_pure, Except.ok.injEq,
      Prod.mk.injEq, List.cons.injEq]
    constructor
    · rintro ⟨_, h, rfl, rfl⟩
      exact ⟨first, rest, ⟨rfl, rfl⟩, rfl, h⟩
    · rintro ⟨_, _, ⟨rfl, rfl⟩, rfl, h⟩
      exact ⟨_, h, rfl, rfl⟩

namespace Insert

/-- An insert needs columns. -/
theorem plain_eq_ok {c : Config} {i : Insert} {s : Sql} :
    (i.plain c).result = .ok s ↔
      ∃ columns rows, (arrangeRows i.rows).result = .ok (columns, rows) ∧ columns ≠ [] ∧
        s = insertHead c i.table columns ++ rowsClause rows := by
  rw [plain]
  constructor
  · intro h
    obtain ⟨⟨columns, rows⟩, hrows, h⟩ := Compile.result_bind_eq_ok.mp h
    dsimp only at h
    split at h
    · rw [Compile.result_throw_bind] at h
      cases h
    · next hcolumns =>
      cases h
      exact ⟨columns, rows, hrows, by simpa using hcolumns, rfl⟩
  · rintro ⟨columns, rows, hrows, hcolumns, rfl⟩
    refine Compile.result_bind_eq_ok.mpr ⟨(columns, rows), hrows, ?_⟩
    dsimp only
    rw [if_neg (by simpa using hcolumns)]
    rfl

/-- An insert that returns its key has one row, and is the plain one when the row gives the key. -/
theorem returningKey_eq_ok {c : Config} {i : Insert} {s : Sql} :
    (i.returningKey c).result = .ok s ↔
      i.rows.length ≤ 1 ∧ ∃ sql, (i.plain c).result = .ok sql ∧
        s = if i.hasExplicitKey then sql
          else sql ++ (" returning " ++ wrap c i.keyColumn ++ " into ")
            ++ Sql.ofOut (OutBinding.key i.keyColumn) := by
  rw [returningKey]
  dsimp only
  constructor
  · intro h
    split at h
    · rw [Compile.result_throw_bind] at h
      cases h
    · next hrows =>
      obtain ⟨sql, hsql, h⟩ := Compile.result_bind_eq_ok.mp h
      refine ⟨Nat.not_lt.mp hrows, sql, hsql, ?_⟩
      split at h
      · next hkey =>
        cases h
        rw [if_pos hkey]
      · next hkey =>
        cases h
        rw [if_neg hkey]
  · rintro ⟨hrows, sql, hsql, rfl⟩
    rw [if_neg (Nat.not_lt.mpr hrows)]
    refine Compile.result_bind_eq_ok.mpr ⟨sql, hsql, ?_⟩
    split <;> rfl

/-- The columns and the values of the row of an insert of large objects, which may be missing. -/
def blobRow (rows : List RowValues) : Compile (List String × List (List Value)) :=
  if rows.isEmpty then pure ([], [[]]) else arrangeRows rows

/-- The insert of large objects into the given columns, up to the outputs. -/
def blobsBody (c : Config) (i : Insert) (columns : List String) (values : List Value) : Sql :=
  insertHead c i.table (columns ++ i.binaryColumns.map Prod.fst) ++ " values ("
    ++ Sql.joined ", " (values.map Sql.ofValue
      ++ (i.binaryColumns.map Prod.fst).map fun _ => Sql.ofText "EMPTY_BLOB()")
    ++ (") returning " ++ columnList c (i.binaryColumns.map Prod.fst ++ [i.keyColumn]) ++ " into ")

/-- The insert of large objects into the given columns. -/
def blobsSql (c : Config) (i : Insert) (columns : List String) (values : List Value) : Sql :=
  i.blobsBody c columns values ++ Sql.ofOuts (locatorBinds i.binaryColumns i.keyColumn)

/-- An insert of large objects has at most one row. -/
theorem compileBlobs_eq_ok {c : Config} {i : Insert} {statement : Statement}
    (hbinary : i.binaryColumns ≠ []) :
    (i.compileBlobs c).result = .ok statement ↔
      i.rows.length ≤ 1 ∧ ∃ columns rows, (blobRow i.rows).result = .ok (columns, rows) ∧
        statement = (i.blobsSql c columns (rows.headD [])).statement := by
  have hsome : ¬i.binaryColumns.isEmpty = true := by simpa using hbinary
  rw [compileBlobs]
  dsimp only
  rw [if_neg hsome]
  constructor
  · intro h
    split at h
    · rw [Compile.result_throw_bind] at h
      cases h
    · next hrows =>
      refine ⟨Nat.not_lt.mp hrows, ?_⟩
      rw [blobRow]
      split at h
      · next hempty =>
        obtain ⟨⟨columns, rows⟩, harranged, h⟩ := Compile.result_bind_eq_ok.mp h
        cases h
        exact ⟨columns, rows, by rw [if_pos hempty, harranged], rfl⟩
      · next hempty =>
        obtain ⟨⟨columns, rows⟩, harranged, h⟩ := Compile.result_bind_eq_ok.mp h
        cases h
        exact ⟨columns, rows, by rw [if_neg hempty, harranged], rfl⟩
  · rintro ⟨hrows, columns, rows, harranged, rfl⟩
    rw [if_neg (Nat.not_lt.mpr hrows)]
    rw [blobRow] at harranged
    split
    · next hempty =>
      rw [if_pos hempty] at harranged
      exact Compile.result_bind_eq_ok.mpr ⟨(columns, rows), harranged, rfl⟩
    · next hempty =>
      rw [if_neg hempty] at harranged
      exact Compile.result_bind_eq_ok.mpr ⟨(columns, rows), harranged, rfl⟩

/-- Without large columns it is the insert that returns its key. -/
theorem compileBlobs_eq_ok_of_nil {c : Config} {i : Insert} {statement : Statement}
    (hbinary : i.binaryColumns = []) :
    (i.compileBlobs c).result = .ok statement ↔ (i.compileGetId c).result = .ok statement := by
  have hnone : i.binaryColumns.isEmpty = true := by rw [hbinary]; rfl
  rw [compileBlobs]
  dsimp only
  rw [if_pos hnone]
  constructor
  · intro h
    split at h
    · rw [Compile.result_throw_bind] at h
      cases h
    · exact h
  · intro h
    obtain ⟨sql, hsql, _⟩ := Compile.result_bind_eq_ok.mp h
    rw [if_neg (Nat.not_lt.mpr (returningKey_eq_ok.mp hsql).1)]
    exact h

end Insert

namespace Update

/-- An update needs assignments. -/
theorem body_eq_ok {c : Config} {u : Update} {further : List Sql} {s : Sql} :
    (u.body c further).result = .ok s ↔
      ¬(u.assignments = [] ∧ further = []) ∧
        ∃ joins wheres, (compileJoins c u.joins).result = .ok joins ∧
          (compileWheres c u.wheres).result = .ok wheres ∧
          s = ("update " ++ wrapTable c u.table) ++ joins ++ " set "
            ++ Sql.joined ", " (u.assignments.map (fun a => (wrap c a.1 ++ " = ") ++ Sql.ofValue a.2)
              ++ further) ++ wheres := by
  rw [body]
  dsimp only
  constructor
  · intro h
    split at h
    · rw [Compile.result_throw_bind] at h
      cases h
    · next hempty =>
      obtain ⟨joins, hjoins, h⟩ := Compile.result_bind_eq_ok.mp h
      obtain ⟨wheres, hwheres, h⟩ := Compile.result_bind_eq_ok.mp h
      cases h
      exact ⟨by simpa using hempty, joins, wheres, hjoins, hwheres, rfl⟩
  · rintro ⟨hempty, joins, wheres, hjoins, hwheres, rfl⟩
    rw [if_neg (by simpa using hempty)]
    refine Compile.result_bind_eq_ok.mpr ⟨joins, hjoins, ?_⟩
    exact Compile.result_bind_eq_ok.mpr ⟨wheres, hwheres, rfl⟩

def emptyBlobs (c : Config) (binary : BinaryColumns) : List Sql :=
  (binary.map Prod.fst).map fun column => Sql.ofText (wrap c column ++ " = EMPTY_BLOB()")

theorem compileBlobs_eq_ok {c : Config} {u : Update} {statement : Statement}
    (hbinary : u.binaryColumns ≠ []) :
    (u.compileBlobs c).result = .ok statement ↔
      ∃ body, (u.body c (emptyBlobs c u.binaryColumns)).result = .ok body ∧
        statement = Sql.statement (body
          ++ (" returning " ++ columnList c (u.binaryColumns.map Prod.fst ++ [u.keyColumn])
            ++ " into ")
          ++ Sql.ofOuts (locatorBinds u.binaryColumns u.keyColumn)) := by
  have hsome : u.binaryColumns.isEmpty = false := by simpa using hbinary
  rw [compileBlobs]
  simp only [hsome, Bool.false_eq_true, if_false]
  constructor
  · intro h
    obtain ⟨body, hbody, h⟩ := Compile.result_bind_eq_ok.mp h
    cases h
    exact ⟨body, hbody, rfl⟩
  · rintro ⟨body, hbody, rfl⟩
    exact Compile.result_bind_eq_ok.mpr ⟨body, hbody, rfl⟩

/-- Without large columns it is the plain update. -/
theorem compileBlobs_of_nil {c : Config} {u : Update} (hbinary : u.binaryColumns = []) :
    u.compileBlobs c = u.compile c := by
  have hnone : u.binaryColumns.isEmpty = true := by rw [hbinary]; rfl
  rw [compileBlobs, if_pos hnone]

end Update

end OracleSql
