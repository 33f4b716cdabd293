import Mathlib.Data.List.Forall2
import Mathlib.Data.List.Nodup
import Mathlib.Data.List.Perm.Subperm
import OracleSql.Proofs.Write.Outputs

/-!
# Batches

A batch is inserted in the columns of its first row, and every row is arranged in their order.  The
compilation looks at two things only: whether a row has as many columns as the first one, and
whether each column of the first row is found in it.  When the first row names no column twice this
is enough.  The pairs that are found are all different, so a row of the same length holds nothing
else (`arrangeRow?_eq_some_iff`): it is the first row with other values, up to the order.

`Insert.compile_batch` says which batches are accepted, what the error is for the others, and that
the statement holds every row with all its values.
-/

namespace OracleSql

open Identifier

namespace RowValues

/-- A row in another order, in which its columns are the given ones. -/
structure ArrangedAs (columns : List String) (row arranged : RowValues) : Prop where
  perm : arranged.Perm row
  columns_eq : arranged.columns = columns

/-- The values of a row as a statement shows them, the raw ones as they are. -/
def shown (row : RowValues) : String :=
  ", ".intercalate (row.map fun p => p.2.placeholder)

/-- The values of a row that are bound. -/
def bound (row : RowValues) : List Value :=
  (row.map Prod.snd).filter fun v => !v.isRaw

def branch (row : RowValues) : String :=
  "select " ++ row.shown ++ " from dual"

/-- What follows the head of an insert of the given rows. -/
def rowsText : List RowValues → String
  | [row] => " values (" ++ row.shown ++ ")"
  | rows => " " ++ " union all ".intercalate (rows.map branch)

end RowValues

open RowValues

variable {columns : List String} {row : RowValues}

/-! ### One row -/

theorem mem_of_value?_eq_some {column : String} {v : Value} (h : row.value? column = some v) :
    (column, v) ∈ row := by
  obtain ⟨before, after, rfl, -⟩ := List.lookup_eq_some_iff.mp h
  exact List.mem_append_right _ List.mem_cons_self

theorem value?_eq_some_of_mem (hcolumns : row.columns.Nodup) {column : String} {v : Value}
    (h : (column, v) ∈ row) : row.value? column = some v := by
  obtain ⟨before, after, rfl⟩ := List.append_of_mem h
  refine List.lookup_eq_some_iff.mpr ⟨before, after, rfl, fun p hp => ?_⟩
  rw [RowValues.columns, List.map_append, List.map_cons] at hcolumns
  have hne := (List.nodup_append.mp hcolumns).2.2 p.1 (List.mem_map_of_mem hp) column
    List.mem_cons_self
  simpa using hne.symm

theorem mapM_value?_eq_some_iff {values : List Value} :
    columns.mapM row.value? = some values ↔
      ∃ arranged : RowValues, arranged.columns = columns ∧ arranged.map Prod.snd = values ∧
        ∀ p ∈ arranged, row.value? p.1 = some p.2 := by
  induction columns generalizing values with
  | nil =>
    constructor
    · intro h
      cases h
      exact ⟨[], rfl, rfl, fun _ hp => absurd hp List.not_mem_nil⟩
    · rintro ⟨arranged, hcolumns, rfl, -⟩
      rw [List.map_eq_nil_iff.mp hcolumns]
      rfl
  | cons column rest ih =>
    simp only [List.mapM_cons, Option.bind_eq_bind, Option.bind_eq_some_iff, Option.pure_def,
      Option.some.injEq]
    constructor
    · rintro ⟨v, hv, others, hothers, rfl⟩
      obtain ⟨arranged, rfl, rfl, hfound⟩ := ih.mp hothers
      exact ⟨(column, v) :: arranged, rfl, rfl, List.forall_mem_cons.mpr ⟨hv, hfound⟩⟩
    · rintro ⟨arranged, hcolumns, rfl, hfound⟩
      obtain ⟨⟨name, v⟩, others, rfl, rfl, hothers⟩ := List.map_eq_cons_iff.mp hcolumns
      obtain ⟨hv, hfound⟩ := List.forall_mem_cons.mp hfound
      exact ⟨v, hv, others.map Prod.snd, ih.mpr ⟨others, hothers, rfl, hfound⟩, rfl⟩

/-- **A row that has every column and not more is rearranged.**  The pairs that are found have
different columns and all stand in the row, and they are as many as the row has. -/
theorem arrangeRow?_eq_some_iff (hcolumns : columns.Nodup) {values : List Value} :
    arrangeRow? columns row = some values ↔
      ∃ arranged, ArrangedAs columns row arranged ∧ arranged.map Prod.snd = values := by
  rw [arrangeRow?, Option.ite_none_right_eq_some, mapM_value?_eq_some_iff]
  constructor
  · rintro ⟨hlength, arranged, rfl, rfl, hfound⟩
    have hsub : arranged ⊆ row := fun p hp => mem_of_value?_eq_some (hfound p hp)
    have hsubperm := List.subperm_of_subset (List.Nodup.of_map _ hcolumns) hsub
    have hle : row.length ≤ arranged.length :=
      Nat.le_of_eq (hlength.trans (List.length_map _))
    exact ⟨arranged, ⟨hsubperm.perm_of_length_le hle, rfl⟩, rfl⟩
  · rintro ⟨arranged, ⟨hperm, rfl⟩, rfl⟩
    have hrow : row.columns.Nodup := (hperm.map Prod.fst).nodup_iff.mp hcolumns
    refine ⟨?_, arranged, rfl, rfl, fun p hp => value?_eq_some_of_mem hrow (hperm.subset hp)⟩
    rw [← hperm.length_eq, RowValues.columns, List.length_map]

theorem RowValues.ArrangedAs.columns_perm {arranged : RowValues}
    (h : ArrangedAs columns row arranged) : row.columns.Perm columns := by
  rw [← h.columns_eq]
  exact (h.perm.map Prod.fst).symm

/-- A row can be arranged when it has the given columns, in any order. -/
theorem exists_arrangeRow?_iff (hcolumns : columns.Nodup) :
    (∃ values, arrangeRow? columns row = some values) ↔ row.columns.Perm columns := by
  constructor
  · rintro ⟨values, h⟩
    obtain ⟨arranged, harranged, -⟩ := (arrangeRow?_eq_some_iff hcolumns).mp h
    exact harranged.columns_perm
  · intro hperm
    have hlength : row.length = columns.length := by
      rw [← hperm.length_eq, RowValues.columns, List.length_map]
    rw [arrangeRow?, if_pos hlength]
    exact exists_mapM_value? fun column hc => exists_value?_of_mem_columns (hperm.mem_iff.mpr hc)

/-! ### All rows -/

theorem result_arrange_cons {index : Nat} {rows : List RowValues} :
    (arrange columns index (row :: rows)).result =
      match arrangeRow? columns row with
      | none => .error (.columnMismatch index columns row.columns)
      | some values =>
        (arrange columns (index + 1) rows).result >>= fun others => .ok (values :: others) := by
  rw [arrange]
  cases arrangeRow? columns row with
  | none => rfl
  | some values => exact Compile.result_bind _ _

/-- Every row of an accepted batch is rearranged. -/
theorem exists_arrangedAs_of_arrange (hcolumns : columns.Nodup) {index : Nat}
    {rows : List RowValues} {values : List (List Value)}
    (h : (arrange columns index rows).result = .ok values) :
    ∃ arranged, List.Forall₂ (ArrangedAs columns) rows arranged ∧
      values = arranged.map fun a => a.map Prod.snd := by
  induction rows generalizing index values with
  | nil =>
    cases h
    exact ⟨[], .nil, rfl⟩
  | cons row rows ih =>
    rw [result_arrange_cons] at h
    cases hrow : arrangeRow? columns row with
    | none =>
      rw [hrow] at h
      cases h
    | some own =>
      rw [hrow] at h
      obtain ⟨a, ha, rfl⟩ := (arrangeRow?_eq_some_iff hcolumns).mp hrow
      cases hrest : (arrange columns (index + 1) rows).result with
      | error e => simp [hrest, bind, Except.bind] at h
      | ok others =>
        obtain ⟨arranged, harranged, rfl⟩ := ih hrest
        simp only [hrest, bind, Except.bind, Except.ok.injEq] at h
        exact ⟨a :: arranged, .cons ha harranged, h.symm⟩

theorem columns_perm_of_forall₂ {rows arranged : List RowValues}
    (h : List.Forall₂ (ArrangedAs columns) rows arranged) :
    ∀ row ∈ rows, row.columns.Perm columns := by
  induction h with
  | nil => exact fun _ hrow => absurd hrow List.not_mem_nil
  | cons harranged _ ih => exact List.forall_mem_cons.mpr ⟨harranged.columns_perm, ih⟩

theorem exists_arrange_eq_ok (hcolumns : columns.Nodup) {rows : List RowValues}
    (hrows : ∀ row ∈ rows, row.columns.Perm columns) (index : Nat) :
    ∃ values, (arrange columns index rows).result = .ok values := by
  induction rows generalizing index with
  | nil => exact ⟨[], rfl⟩
  | cons row rows ih =>
    obtain ⟨hrow, hrows⟩ := List.forall_mem_cons.mp hrows
    obtain ⟨own, hown⟩ := (exists_arrangeRow?_iff hcolumns).mpr hrow
    obtain ⟨others, hothers⟩ := ih hrows (index + 1)
    exact ⟨own :: others, by rw [result_arrange_cons, hown, hothers]; rfl⟩

/-- **The error tells the first row that has other columns.** -/
theorem arrange_eq_error (hcolumns : columns.Nodup) {before : List RowValues}
    (hbefore : ∀ r ∈ before, r.columns.Perm columns) (hrow : ¬row.columns.Perm columns)
    (after : List RowValues) (index : Nat) :
    (arrange columns index (before ++ row :: after)).result =
      .error (.columnMismatch (index + before.length) columns row.columns) := by
  induction before generalizing index with
  | nil =>
    have hnone : arrangeRow? columns row = none := by
      rw [← exists_arrangeRow?_iff hcolumns, ← Option.ne_none_iff_exists', not_not] at hrow
      exact hrow
    rw [List.nil_append, result_arrange_cons, hnone]
    rfl
  | cons r before ih =>
    obtain ⟨hr, hbefore⟩ := List.forall_mem_cons.mp hbefore
    obtain ⟨own, hown⟩ := (exists_arrangeRow?_iff hcolumns).mpr hr
    have hindex : index + 1 + before.length = index + (r :: before).length := by
      rw [List.length_cons]
      omega
    rw [List.cons_append, result_arrange_cons, hown, ih hbefore, ← hindex]
    rfl

/-! ### The rows in the statement -/

theorem text_ofValues_eq_shown (row : RowValues) :
    (Sql.ofValues (row.map Prod.snd)).text = row.shown := by
  rw [Sql.text_ofValues, List.map_map]
  rfl

theorem params_ofValues_eq_bound (row : RowValues) :
    (Sql.ofValues (row.map Prod.snd)).params = row.bound :=
  Sql.params_ofValues _

theorem text_branch (row : RowValues) :
    Sql.text ("select " ++ Sql.ofValues (row.map Prod.snd) ++ " from dual") = row.branch := by
  rw [Sql.text_append, Sql.text_append, Sql.text_ofText, Sql.text_ofText, text_ofValues_eq_shown]
  rfl

/-- The rows as branches of a union. -/
def unionClause (rows : List (List Value)) : Sql :=
  " " ++ Sql.joined " union all "
    (rows.map fun row => "select " ++ Sql.ofValues row ++ " from dual")

theorem text_unionClause (arranged : List RowValues) :
    (unionClause (arranged.map fun a => a.map Prod.snd)).text
      = " " ++ " union all ".intercalate (arranged.map branch) := by
  rw [unionClause, Sql.text_append, Sql.text_ofText, Sql.text_joined, List.map_map, List.map_map]
  apply congrArg
  apply congrArg
  exact List.map_congr_left fun a _ => text_branch a

theorem params_unionClause (arranged : List RowValues) :
    (unionClause (arranged.map fun a => a.map Prod.snd)).params = arranged.flatMap bound := by
  rw [unionClause, Sql.params_append, Sql.params_ofText, List.nil_append, Sql.params,
    Sql.flatMap_joined rfl, List.flatMap_map, List.flatMap_map]
  refine List.flatMap_congr fun a _ => ?_
  rw [← params_ofValues_eq_bound a]
  exact (Sql.params_append _ _).trans (List.append_nil _)

/-- **Every row stands in the text**, one after `values` and several as branches of a union. -/
theorem text_rowsClause (arranged : List RowValues) :
    (Insert.rowsClause (arranged.map fun a => a.map Prod.snd)).text = rowsText arranged := by
  rcases arranged with _ | ⟨row, _ | ⟨other, rest⟩⟩
  · exact text_unionClause []
  · rw [List.map_singleton, Insert.rowsClause, Sql.text_append, Sql.text_append, Sql.text_ofText,
      Sql.text_ofText, text_ofValues_eq_shown]
    rfl
  · exact text_unionClause (row :: other :: rest)

/-- The values are bound row by row. -/
theorem params_rowsClause (arranged : List RowValues) :
    (Insert.rowsClause (arranged.map fun a => a.map Prod.snd)).params = arranged.flatMap bound := by
  rcases arranged with _ | ⟨row, _ | ⟨other, rest⟩⟩
  · exact params_unionClause []
  · rw [List.map_singleton, Insert.rowsClause, Sql.params_append, Sql.params_append,
      Sql.params_ofText, Sql.params_ofText, params_ofValues_eq_bound]
    simp
  · exact params_unionClause (row :: other :: rest)

/-! ### The statement -/

namespace Insert

variable {c : Config} {i : Insert} {first : RowValues} {rest : List RowValues}

/-- What refuses the rows refuses the insert. -/
theorem compile_eq_error_of_arrangeRows {e : CompileError}
    (h : (arrangeRows i.rows).result = .error e) : (i.compile c).result = .error e := by
  simp [compile, plain, h, bind]

theorem compile_eq_error_of_nil (hrows : i.rows = []) :
    (i.compile c).result = .error .emptyInsert := by
  apply compile_eq_error_of_arrangeRows
  rw [hrows]
  rfl

theorem compile_eq_error_of_arrange (hrows : i.rows.head? = some first) {e : CompileError}
    (h : (arrange first.columns 0 i.rows).result = .error e) :
    (i.compile c).result = .error e := by
  obtain ⟨rest, hrows⟩ := List.head?_eq_some_iff.mp hrows
  have harrange : (arrangeRows i.rows).result = .error e := by
    rw [hrows] at h ⊢
    simp [arrangeRows, h, bind]
  exact compile_eq_error_of_arrangeRows harrange

/-- The rows of an accepted batch, and its statement. -/
theorem statement_of_compile_eq_ok (hrows : i.rows = first :: rest)
    (hfirst : first.columns.Nodup) {st : Statement} (h : (i.compile c).result = .ok st) :
    first ≠ [] ∧ ∃ arranged, List.Forall₂ (ArrangedAs first.columns) i.rows arranged ∧
      st = ⟨insertHead c i.table first.columns ++ rowsText arranged,
        arranged.flatMap RowValues.bound, []⟩ := by
  obtain ⟨s, hs, h⟩ := Compile.result_bind_eq_ok.mp h
  cases h
  have houtputs := outputs_plain hs
  obtain ⟨columns, values, harrange, hcolumns, rfl⟩ := plain_eq_ok.mp hs
  obtain ⟨first', rest', hrows', rfl, hvalues⟩ := arrangeRows_eq_ok.mp harrange
  cases hrows.symm.trans hrows'
  obtain ⟨arranged, harranged, rfl⟩ := exists_arrangedAs_of_arrange hfirst hvalues
  refine ⟨fun hnil => hcolumns (by rw [hnil]; rfl), arranged, harranged, ?_⟩
  rw [Sql.statement, houtputs, Sql.text_append, Sql.text_ofText, text_rowsClause, Sql.params_append,
    Sql.params_ofText, params_rowsClause, List.nil_append]

/-- A batch is accepted when its first row is not empty and all rows have its columns. -/
theorem exists_compile_eq_ok (hrows : i.rows = first :: rest) (hfirst : first.columns.Nodup)
    (hne : first ≠ []) (hperm : ∀ row ∈ i.rows, row.columns.Perm first.columns) :
    ∃ st, (i.compile c).result = .ok st := by
  obtain ⟨values, hvalues⟩ := exists_arrange_eq_ok hfirst hperm 0
  have hplain : (i.plain c).result = .ok (insertHead c i.table first.columns ++ rowsClause values) :=
    plain_eq_ok.mpr ⟨first.columns, values,
      arrangeRows_eq_ok.mpr ⟨first, rest, hrows, rfl, hvalues⟩,
      fun hnil => hne (List.map_eq_nil_iff.mp hnil), rfl⟩
  exact ⟨_, Compile.result_bind_eq_ok.mpr ⟨_, hplain, rfl⟩⟩

theorem compile_eq_error_of_empty (hrows : i.rows ≠ []) (hempty : ∀ row ∈ i.rows, row = []) :
    (i.compile c).result = .error (.insertWithoutColumns i.table) := by
  obtain ⟨first, rest, hcons⟩ := List.exists_cons_of_ne_nil hrows
  obtain rfl := hempty first (by rw [hcons]; exact List.mem_cons_self)
  have hperm : ∀ row ∈ i.rows, row.columns.Perm [] := fun row hrow => by rw [hempty row hrow]; rfl
  obtain ⟨values, hvalues⟩ := exists_arrange_eq_ok List.nodup_nil hperm 0
  have harrange : (arrangeRows i.rows).result = .ok ([], values) :=
    arrangeRows_eq_ok.mpr ⟨[], rest, hcons, rfl, hvalues⟩
  simp [compile, plain, harrange, bind]

/-- **Batches keep every row.**  An insert whose first row names no column twice is compiled exactly
when it has a row, the first one is not empty and all rows have the columns of the first one, in any
order.  Otherwise the error is that there is no row, or tells the first row with other columns, or
else that there are no columns.  The statement holds all rows in the order of the first one's
columns, one after `values` and several as branches of a union, and binds their values row by row
except the raw ones. -/
theorem compile_batch (c : Config) (i : Insert)
    (hfirst : ∀ first ∈ i.rows.head?, first.columns.Nodup) :
    ((∃ st, (i.compile c).result = .ok st) ↔
        ∃ first rest, i.rows = first :: rest ∧ first ≠ [] ∧
          ∀ row ∈ i.rows, row.columns.Perm first.columns) ∧
      (i.rows = [] → (i.compile c).result = .error .emptyInsert) ∧
      (∀ first before row after, i.rows.head? = some first → i.rows = before ++ row :: after →
        (∀ r ∈ before, r.columns.Perm first.columns) → ¬row.columns.Perm first.columns →
        (i.compile c).result =
          .error (.columnMismatch before.length first.columns row.columns)) ∧
      (i.rows ≠ [] → (∀ row ∈ i.rows, row = []) →
        (i.compile c).result = .error (.insertWithoutColumns i.table)) ∧
      ∀ st, (i.compile c).result = .ok st →
        ∃ first rest arranged, i.rows = first :: rest ∧ first ≠ [] ∧
          List.Forall₂ (ArrangedAs first.columns) i.rows arranged ∧
          st = ⟨insertHead c i.table first.columns ++ rowsText arranged,
            arranged.flatMap RowValues.bound, []⟩ := by
  have hstatement : ∀ st, (i.compile c).result = .ok st →
      ∃ first rest arranged, i.rows = first :: rest ∧ first ≠ [] ∧
        List.Forall₂ (ArrangedAs first.columns) i.rows arranged ∧
        st = ⟨insertHead c i.table first.columns ++ rowsText arranged,
          arranged.flatMap RowValues.bound, []⟩ := by
    intro st h
    cases hrows : i.rows with
    | nil =>
      rw [compile_eq_error_of_nil hrows] at h
      cases h
    | cons first rest =>
      have hnodup := hfirst first (by rw [hrows]; rfl)
      obtain ⟨hne, arranged, harranged, hst⟩ := statement_of_compile_eq_ok hrows hnodup h
      exact ⟨first, rest, arranged, rfl, hne, hrows ▸ harranged, hst⟩
  refine ⟨⟨?_, ?_⟩, compile_eq_error_of_nil, ?_, compile_eq_error_of_empty, hstatement⟩
  · rintro ⟨st, h⟩
    obtain ⟨first, rest, arranged, hrows, hne, harranged, -⟩ := hstatement st h
    exact ⟨first, rest, hrows, hne, columns_perm_of_forall₂ harranged⟩
  · rintro ⟨first, rest, hrows, hne, hperm⟩
    exact exists_compile_eq_ok hrows (hfirst first (by rw [hrows]; rfl)) hne hperm
  · intro first before row after hhead hrows hbefore hrow
    have harrange := arrange_eq_error (hfirst first hhead) hbefore hrow after 0
    rw [← hrows, Nat.zero_add] at harrange
    exact compile_eq_error_of_arrange hhead harrange

/-- A batch whose second row has its columns in another order and whose first one holds a raw value;
with a third row that names one column twice the batch is refused, and the error tells that row. -/
theorem compile_batch_reordered :
    let first : RowValues := [("name", .text "ann"), ("created_at", .raw "sysdate")]
    let i := ((into "users").row first).row [("created_at", .null), ("name", .text "bob")]
    let j := i.row [("name", .text "cid"), ("name", .text "dan")]
    first.columns.Nodup ∧
      (∃ st, (i.compile .standard).result = .ok st ∧
        st.sql = "insert into users (name, created_at) "
          ++ "select ?, sysdate from dual union all select ?, ? from dual" ∧
        st.params = [.text "ann", .text "bob", .null]) ∧
      (j.compile .standard).result =
        .error (.columnMismatch 2 ["name", "created_at"] ["name", "name"]) := by
  intro first i j
  have hnodup : first.columns.Nodup := by decide +kernel
  have hfirst (row : RowValues) (h : row ∈ some first) : row.columns.Nodup :=
    Option.some.inj h ▸ hnodup
  refine ⟨hnodup, ?_, ?_⟩
  · obtain ⟨st, h⟩ := (compile_batch .standard i hfirst).1.mpr
      ⟨first, _, rfl, List.cons_ne_nil _ _, by decide +kernel⟩
    obtain rfl : st = _ := (Except.ok.inj h).symm
    exact ⟨_, h, by decide +kernel, by decide +kernel⟩
  · exact (compile_batch .standard j hfirst).2.2.1 first i.rows _ [] rfl rfl
      (by decide +kernel) (by decide +kernel)

end Insert

end OracleSql
