import OracleSql.Proofs.Query.Rules
import OracleSql.Proofs.Write.Accepted

/-!
# Rules for the parts of a write

The rules of `Proofs/Query/Rules.lean` carried over to inserts, updates and deletes.  Rows are
arranged in the order of the first one; what is arranged keeps to the rules that the rows keep to
(`Insert.Obeys.arranged`).
-/

namespace OracleSql

/-! ### Arranged rows -/

theorem exists_mem_of_mem_mapM_value? {columns : List String} {row : RowValues}
    {values : List Value} (h : columns.mapM row.value? = some values) {v : Value}
    (hv : v ∈ values) : ∃ column, (column, v) ∈ row := by
  induction columns generalizing values with
  | nil =>
    cases h
    cases hv
  | cons column columns ih =>
    rw [List.mapM_cons] at h
    obtain ⟨first, hfirst, h⟩ := Option.bind_eq_some_iff.mp h
    obtain ⟨others, hothers, h⟩ := Option.bind_eq_some_iff.mp h
    cases h
    rcases List.mem_cons.mp hv with rfl | hv
    · obtain ⟨_, _, hrow, _⟩ := List.lookup_eq_some_iff.mp hfirst
      refine ⟨column, ?_⟩
      rw [hrow]
      exact List.mem_append_right _ List.mem_cons_self
    · exact ih hothers hv

theorem exists_mem_of_mem_arrange {columns : List String} {rows : List RowValues}
    {arranged : List (List Value)} {index : Nat}
    (h : (arrange columns index rows).result = .ok arranged) {values : List Value}
    (hvalues : values ∈ arranged) {v : Value} (hv : v ∈ values) :
    ∃ row ∈ rows, ∃ column, (column, v) ∈ row := by
  induction rows generalizing index arranged with
  | nil =>
    cases h
    cases hvalues
  | cons row rows ih =>
    rw [arrange] at h
    cases hrow : arrangeRow? columns row with
    | none =>
      rw [hrow] at h
      cases h
    | some first =>
      rw [hrow] at h
      obtain ⟨others, hothers, h⟩ := Compile.result_bind_eq_ok.mp h
      cases h
      rcases List.mem_cons.mp hvalues with rfl | hvalues
      · rw [arrangeRow?] at hrow
        split at hrow
        · obtain ⟨column, hmem⟩ := exists_mem_of_mem_mapM_value? hrow hv
          exact ⟨row, List.mem_cons_self, column, hmem⟩
        · cases hrow
      · obtain ⟨row', hrow', column, hmem⟩ := ih hothers hvalues
        exact ⟨row', List.mem_cons_of_mem _ hrow', column, hmem⟩

/-! ### Inserts -/

namespace Insert

structure Obeys (r : Rules) (i : Insert) : Prop where
  table : r.name i.table
  columns : ∀ row ∈ i.rows, ∀ p ∈ row, r.name p.1
  values : ∀ row ∈ i.rows, ∀ p ∈ row, r.value p.2
  binaryColumns : ∀ p ∈ i.binaryColumns, r.name p.1
  keyColumn : r.name i.keyColumn

variable {i : Insert}

theorem Obeys.arranged {r : Rules} (hi : i.Obeys r) {columns : List String}
    {rows : List (List Value)} (h : (arrangeRows i.rows).result = .ok (columns, rows)) :
    (∀ name ∈ columns, r.name name) ∧ ∀ row ∈ rows, ∀ v ∈ row, r.value v := by
  obtain ⟨first, rest, hfirst, rfl, harranged⟩ := arrangeRows_eq_ok.mp h
  constructor
  · intro name hname
    obtain ⟨p, hp, rfl⟩ := List.mem_map.mp hname
    exact hi.columns first (by rw [hfirst]; exact List.mem_cons_self) p hp
  · intro row hrow v hv
    obtain ⟨given, hgiven, column, hmem⟩ := exists_mem_of_mem_arrange harranged hrow hv
    exact hi.values given hgiven _ hmem

theorem Obeys.blobRow {r : Rules} (hi : i.Obeys r) {columns : List String}
    {rows : List (List Value)} (h : (Insert.blobRow i.rows).result = .ok (columns, rows)) :
    (∀ name ∈ columns, r.name name) ∧ ∀ v ∈ rows.headD [], r.value v := by
  rw [Insert.blobRow] at h
  split at h
  · cases h
    exact ⟨fun _ hname => absurd hname List.not_mem_nil, fun _ hv => absurd hv List.not_mem_nil⟩
  · obtain ⟨hcolumns, hvalues⟩ := hi.arranged h
    refine ⟨hcolumns, fun v hv => ?_⟩
    cases rows with
    | nil => cases hv
    | cons row rows => exact hvalues row List.mem_cons_self v hv

end Insert

/-! ### Updates and deletes -/

structure Update.Obeys (r : Rules) (u : Update) : Prop where
  table : r.name u.table
  columns : ∀ p ∈ u.assignments, r.name p.1
  values : ∀ p ∈ u.assignments, r.value p.2
  joins : joinsObey r u.joins
  wheres : predicatesObey r u.wheres
  binaryColumns : ∀ p ∈ u.binaryColumns, r.name p.1
  keyColumn : r.name u.keyColumn

structure Delete.Obeys (r : Rules) (d : Delete) : Prop where
  table : r.name d.table
  wheres : predicatesObey r d.wheres

end OracleSql
