import OracleSql.Proofs.Query.Inlining
import OracleSql.Proofs.Write.Accepted

/-!
# Writes with their values written into them

What `Proofs/Query/Inlining.lean` says of queries, for inserts, updates and deletes: with its values
written into it, a write compiles to what it compiles to without, inlined.  Rows that are arranged
in the order of the first one come with their values in that order (`arrange_inline`).
-/

namespace OracleSql

/-! ### Rows -/

def inlineRow (lit : Value → String) (row : RowValues) : RowValues :=
  row.map fun p => (p.1, p.2.inline lit)

section

variable (lit : Value → String)

@[simp] theorem isNull_inline (v : Value) : (v.inline lit).isNull = v.isNull := by
  cases v <;> rfl

theorem columns_inlineRow (row : RowValues) : (inlineRow lit row).columns = row.columns := by
  rw [RowValues.columns, inlineRow, List.map_map]
  rfl

theorem value?_inlineRow (row : RowValues) (column : String) :
    (inlineRow lit row).value? column = (row.value? column).map (Value.inline lit) := by
  rw [RowValues.value?, RowValues.value?]
  induction row with
  | nil => rfl
  | cons p row ih =>
    obtain ⟨name, v⟩ := p
    change List.lookup column ((name, v.inline lit) :: inlineRow lit row) = _
    rw [List.lookup_cons, List.lookup_cons]
    cases column == name with
    | true => rfl
    | false => exact ih

theorem arrangeRow?_inlineRow (columns : List String) (row : RowValues) :
    arrangeRow? columns (inlineRow lit row)
      = (arrangeRow? columns row).map (List.map (Value.inline lit)) := by
  have hvalues : columns.mapM (inlineRow lit row).value?
      = (columns.mapM row.value?).map (List.map (Value.inline lit)) := by
    induction columns with
    | nil => rfl
    | cons column columns ih =>
      rw [List.mapM_cons, List.mapM_cons, ih, value?_inlineRow]
      cases row.value? column with
      | none => rfl
      | some v => cases columns.mapM row.value? <;> rfl
  rw [arrangeRow?, arrangeRow?, hvalues, inlineRow, List.length_map]
  split <;> rfl

/-- **Rows are arranged without a look at their values.** -/
theorem arrange_inline {columns : List String} {rows : List RowValues}
    {arranged : List (List Value)} {index : Nat}
    (h : (arrange columns index rows).result = .ok arranged) :
    (arrange columns index (rows.map (inlineRow lit))).result
      = .ok (arranged.map (List.map (Value.inline lit))) := by
  induction rows generalizing index arranged with
  | nil =>
    cases h
    rfl
  | cons row rows ih =>
    rw [arrange] at h
    rw [List.map_cons, arrange, arrangeRow?_inlineRow]
    cases hrow : arrangeRow? columns row with
    | none =>
      rw [hrow] at h
      cases h
    | some values =>
      rw [hrow] at h
      obtain ⟨others, hothers, h⟩ := Compile.result_bind_eq_ok.mp h
      cases h
      exact Compile.result_bind_eq_ok.mpr ⟨_, ih hothers, rfl⟩

theorem arrangeRows_inline {rows : List RowValues} {columns : List String}
    {arranged : List (List Value)} (h : (arrangeRows rows).result = .ok (columns, arranged)) :
    (arrangeRows (rows.map (inlineRow lit))).result
      = .ok (columns, arranged.map (List.map (Value.inline lit))) := by
  obtain ⟨first, rest, rfl, rfl, harranged⟩ := arrangeRows_eq_ok.mp h
  refine arrangeRows_eq_ok.mpr ⟨inlineRow lit first, rest.map (inlineRow lit), rfl, ?_, ?_⟩
  · exact (columns_inlineRow lit first).symm
  · rw [columns_inlineRow]
    exact arrange_inline lit harranged

theorem rowHasKey_inlineRow (key : String) (row : RowValues) :
    Insert.rowHasKey key (inlineRow lit row) = Insert.rowHasKey key row := by
  rw [Insert.rowHasKey, Insert.rowHasKey, inlineRow, List.any_map]
  refine congrArg row.any (funext fun p => ?_)
  obtain ⟨column, v⟩ := p
  change (Text.sameIgnoringCase column key && !(v.inline lit).isNull) = _
  rw [isNull_inline]

end

/-! ### Inserts -/

namespace Insert

def inline (lit : Value → String) (i : Insert) : Insert :=
  { i with rows := i.rows.map (inlineRow lit) }

theorem hasExplicitKey_inline (lit : Value → String) (i : Insert) :
    (i.inline lit).hasExplicitKey = i.hasExplicitKey := by
  rw [hasExplicitKey, hasExplicitKey, inline]
  dsimp only
  rw [List.head?_map]
  cases i.rows.head? with
  | none => rfl
  | some row => exact rowHasKey_inlineRow lit i.keyColumn row

theorem inline_rowsClause (lit : Value → String) (rows : List (List Value)) :
    (rowsClause rows).inline lit = rowsClause (rows.map (List.map (Value.inline lit))) := by
  match rows with
  | [] => rfl
  | [row] =>
    simp only [rowsClause, List.map_cons, List.map_nil, Sql.inline_append, Sql.inline_ofText,
      Sql.inline_ofValues]
  | first :: second :: rest =>
    have hselect : ∀ rows : List (List Value),
        (rows.map fun row => (Sql.ofText "select " ++ Sql.ofValues row
          ++ Sql.ofText " from dual")).map (Sql.inline lit)
        = (rows.map (List.map (Value.inline lit))).map fun row =>
          (Sql.ofText "select " ++ Sql.ofValues row ++ Sql.ofText " from dual") := by
      intro rows
      rw [List.map_map, List.map_map]
      refine List.map_congr_left fun row _ => ?_
      simp only [Function.comp, Sql.inline_append, Sql.inline_ofText, Sql.inline_ofValues]
    change Sql.inline lit (Sql.ofText " " ++ Sql.joined " union all "
      ((first :: second :: rest).map fun row => (Sql.ofText "select " ++ Sql.ofValues row
        ++ Sql.ofText " from dual"))) = _
    rw [Sql.inline_append, Sql.inline_joined, hselect]
    rfl

variable {c : Config} {i : Insert}

theorem plain_inline (lit : Value → String) {s : Sql} (h : (i.plain c).result = .ok s) :
    ((i.inline lit).plain c).result = .ok (s.inline lit) := by
  obtain ⟨columns, rows, hrows, hcolumns, rfl⟩ := plain_eq_ok.mp h
  refine plain_eq_ok.mpr ⟨columns, _, arrangeRows_inline lit hrows, hcolumns, ?_⟩
  rw [Sql.inline_append, inline_rowsClause]
  rfl

theorem returningKey_inline (lit : Value → String) {s : Sql}
    (h : (i.returningKey c).result = .ok s) :
    ((i.inline lit).returningKey c).result = .ok (s.inline lit) := by
  obtain ⟨hrows, sql, hsql, rfl⟩ := returningKey_eq_ok.mp h
  refine returningKey_eq_ok.mpr ⟨?_, _, plain_inline lit hsql, ?_⟩
  · rw [inline, List.length_map]
    exact hrows
  · rw [hasExplicitKey_inline]
    split
    · rfl
    · rw [Sql.inline_append, Sql.inline_append]
      rfl

theorem blobRow_inline (lit : Value → String) {rows : List RowValues} {columns : List String}
    {arranged : List (List Value)} (h : (blobRow rows).result = .ok (columns, arranged)) :
    (blobRow (rows.map (inlineRow lit))).result
      = .ok (columns, arranged.map (List.map (Value.inline lit))) := by
  cases rows with
  | nil =>
    cases h
    rfl
  | cons row rows =>
    have harranged : (arrangeRows (row :: rows)).result = .ok (columns, arranged) := h
    exact arrangeRows_inline lit harranged

theorem inline_blobsSql (lit : Value → String) (columns : List String) (values : List Value) :
    (i.blobsSql c columns values).inline lit
      = (i.inline lit).blobsSql c columns (values.map (Value.inline lit)) := by
  simp only [blobsSql, blobsBody, Sql.inline_append, Sql.inline_joined, Sql.inline_ofOuts,
    Sql.inline_ofText, List.map_append, List.map_map]
  rfl

end Insert

/-! ### Updates and deletes -/

namespace Update

def inline (lit : Value → String) (u : Update) : Update :=
  { u with
    assignments := inlineRow lit u.assignments
    joins := inlineJoins lit u.joins
    wheres := inlinePredicates lit u.wheres }

variable {c : Config} {u : Update}

theorem body_inline (lit : Value → String) {further : List Sql}
    (hfurther : ∀ s ∈ further, s.inline lit = s) {s : Sql}
    (h : (u.body c further).result = .ok s) :
    ((u.inline lit).body c further).result = .ok (s.inline lit) := by
  obtain ⟨hsome, joins, wheres, hjoins, hwheres, rfl⟩ := body_eq_ok.mp h
  refine body_eq_ok.mpr ⟨?_, _, _, compileJoins_inline lit c u.joins hjoins,
    compileWheres_inline lit hwheres, ?_⟩
  · rintro ⟨hnone, hfurtherNone⟩
    exact hsome ⟨List.map_eq_nil_iff.mp hnone, hfurtherNone⟩
  · have hassignments : (u.assignments.map fun a => Sql.ofText (Identifier.wrap c a.1)
          ++ Sql.ofText " = " ++ Sql.ofValue a.2).map (Sql.inline lit)
        = (inlineRow lit u.assignments).map fun a => Sql.ofText (Identifier.wrap c a.1)
          ++ Sql.ofText " = " ++ Sql.ofValue a.2 := by
      rw [inlineRow, List.map_map, List.map_map]
      rfl
    have hsame : further.map (Sql.inline lit) = further := by
      rw [List.map_congr_left hfurther, List.map_id']
    simp only [Sql.inline_append, Sql.inline_joined, List.map_append, hassignments, hsame]
    rfl

theorem inline_emptyBlobs (lit : Value → String) (c : Config) (binary : BinaryColumns) :
    ∀ s ∈ emptyBlobs c binary, s.inline lit = s := by
  intro s hs
  obtain ⟨column, _, rfl⟩ := List.mem_map.mp hs
  rfl

end Update

def Delete.inline (lit : Value → String) (d : Delete) : Delete :=
  { d with wheres := inlinePredicates lit d.wheres }

end OracleSql
