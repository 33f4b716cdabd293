import OracleSql.Proofs.Query.Alignment
import OracleSql.Proofs.Write.Inlining
import OracleSql.Proofs.Write.Outputs
import OracleSql.Proofs.Write.Rules

/-!
# Every value at its own placeholder

A statement on rows is compiled to a text and a list of parameters that only agree by position.
This file says that they do, for all eight kinds of statements (`RowStatement`): the placeholders
are as many as parameters and outputs together, and each parameter stands at its own one, which
shows when the values are written into the description and the statement is compiled again
(`RowStatement.params_aligned`).
-/

namespace OracleSql

/-! ### Inserts -/

namespace Insert

variable {c : Config} {i : Insert}

theorem selfContained_insertHead (hc : c.Unmarked) {table : String} (htable : Unmarked table)
    {columns : List String} (hcolumns : ∀ name ∈ columns, Unmarked name) :
    SelfContained (insertHead c table columns) :=
  ((((SelfContained.append (by decide) (hc.writes.wrapTable htable)).append (by decide)).append
    (hc.writes.columnList (by decide) hcolumns)).append (by decide))

theorem aligned_rowsClause {rows : List (List Value)}
    (h : ∀ row ∈ rows, ∀ v ∈ row, Rules.selfContained.value v) : (rowsClause rows).Aligned := by
  unfold rowsClause
  split
  · next row =>
    simp only [Sql.aligned_append, Sql.aligned_ofText]
    exact ⟨⟨by decide, aligned_ofValues (h row (List.mem_singleton_self row))⟩, by decide⟩
  · refine Sql.aligned_append.mpr ⟨Sql.aligned_ofText.mpr (by decide), ?_⟩
    refine Sql.Aligned.joined (by decide) fun s hs => ?_
    obtain ⟨row, hrow, rfl⟩ := List.mem_map.mp hs
    simp only [Sql.aligned_append, Sql.aligned_ofText]
    exact ⟨⟨by decide, aligned_ofValues (h row hrow)⟩, by decide⟩

theorem aligned_plain (hc : c.Unmarked) (hi : i.Obeys .selfContained) {s : Sql}
    (h : (i.plain c).result = .ok s) : s.Aligned := by
  obtain ⟨columns, rows, hrows, _, rfl⟩ := plain_eq_ok.mp h
  obtain ⟨hcolumns, hvalues⟩ := hi.arranged hrows
  refine Sql.aligned_append.mpr ⟨Sql.aligned_ofText.mpr ?_, aligned_rowsClause hvalues⟩
  exact selfContained_insertHead hc hi.table hcolumns

theorem aligned_blobsBody (hc : c.Unmarked) (hi : i.Obeys .selfContained)
    {columns : List String} (hcolumns : ∀ name ∈ columns, Unmarked name) {values : List Value}
    (hvalues : ∀ v ∈ values, Rules.selfContained.value v) :
    (i.blobsBody c columns values).Aligned := by
  have hbinary : ∀ name ∈ i.binaryColumns.map Prod.fst, Unmarked name := by
    intro name hname
    obtain ⟨p, hp, rfl⟩ := List.mem_map.mp hname
    exact hi.binaryColumns p hp
  have hhead : SelfContained
      (insertHead c i.table (columns ++ i.binaryColumns.map Prod.fst)) :=
    selfContained_insertHead hc hi.table (List.forall_mem_append.mpr ⟨hcolumns, hbinary⟩)
  have hreturned : SelfContained
      (Identifier.columnList c (i.binaryColumns.map Prod.fst ++ [i.keyColumn])) :=
    hc.writes.columnList (by decide) (List.forall_mem_append.mpr
      ⟨hbinary, List.forall_mem_singleton.mpr hi.keyColumn⟩)
  simp only [blobsBody, Sql.aligned_append, Sql.aligned_ofText]
  refine ⟨⟨⟨hhead, by decide⟩, Sql.Aligned.joined (by decide) fun s hs => ?_⟩,
    ⟨by decide, hreturned⟩, by decide⟩
  rcases List.mem_append.mp hs with hs | hs
  · obtain ⟨v, hv, rfl⟩ := List.mem_map.mp hs
    exact aligned_ofValue (hvalues v hv)
  · obtain ⟨column, _, rfl⟩ := List.mem_map.mp hs
    exact Sql.aligned_ofText.mpr (by decide)

end Insert

/-! ### Updates -/

namespace Update

variable {c : Config} {u : Update}

theorem aligned_body (hc : c.Unmarked) (hu : u.Obeys .selfContained) {further : List Sql}
    (hfurther : ∀ s ∈ further, s.Aligned) {s : Sql} (h : (u.body c further).result = .ok s) :
    s.Aligned := by
  obtain ⟨_, joins, wheres, hjoins, hwheres, rfl⟩ := body_eq_ok.mp h
  simp only [Sql.aligned_append, Sql.aligned_ofText]
  refine ⟨⟨⟨⟨⟨by decide, hc.writes.wrapTable hu.table⟩,
    aligned_compileJoins hc u.joins hu.joins hjoins⟩, by decide⟩,
    Sql.Aligned.joined (by decide) fun s hs => ?_⟩, aligned_compileWheres hc hu.wheres hwheres⟩
  rcases List.mem_append.mp hs with hs | hs
  · obtain ⟨p, hp, rfl⟩ := List.mem_map.mp hs
    simp only [Sql.aligned_append, Sql.aligned_ofText]
    exact ⟨⟨hc.writes.wrap (hu.columns p hp), by decide⟩, aligned_ofValue (hu.values p hp)⟩
  · exact hfurther s hs

theorem aligned_emptyBlobs (hc : c.Unmarked) (hu : u.Obeys .selfContained) :
    ∀ s ∈ emptyBlobs c u.binaryColumns, s.Aligned := by
  intro s hs
  obtain ⟨column, hcolumn, rfl⟩ := List.mem_map.mp hs
  obtain ⟨p, hp, rfl⟩ := List.mem_map.mp hcolumn
  exact Sql.aligned_ofText.mpr ((hc.writes.wrap (hu.binaryColumns p hp)).append (by decide))

end Update

/-! ### All statements on rows -/

/-- A description of a statement on rows, and which of its statements is asked for. -/
inductive RowStatement where
  | select (q : Query)
  | exists? (q : Query)
  | insert (i : Insert)
  | insertGetId (i : Insert)
  | insertBlobs (i : Insert)
  | update (u : Update)
  | updateBlobs (u : Update)
  | delete (d : Delete)

namespace RowStatement

def compile (c : Config) : RowStatement → Compile Statement
  | select q => q.select c
  | exists? q => q.exists? c
  | insert i => i.compile c
  | insertGetId i => i.compileGetId c
  | insertBlobs i => i.compileBlobs c
  | update u => u.compile c
  | updateBlobs u => u.compileBlobs c
  | delete d => d.compile c

def inline (lit : Value → String) : RowStatement → RowStatement
  | select q => select (q.inline lit)
  | exists? q => exists? (q.inline lit)
  | insert i => insert (i.inline lit)
  | insertGetId i => insertGetId (i.inline lit)
  | insertBlobs i => insertBlobs (i.inline lit)
  | update u => update (u.inline lit)
  | updateBlobs u => updateBlobs (u.inline lit)
  | delete d => delete (d.inline lit)

def Obeys (r : Rules) : RowStatement → Prop
  | select q | exists? q => q.Obeys r
  | insert i | insertGetId i | insertBlobs i => i.Obeys r
  | update u | updateBlobs u => u.Obeys r
  | delete d => d.Obeys r

/-- A statement that is made of aligned pieces with the outputs last, and that is compiled from the
description with its values written into it when these are written into the pieces. -/
def Traces (c : Config) (d : RowStatement) (s : Sql) : Prop :=
  s.Aligned ∧ s.OutputsLast ∧
    ∀ lit, ((d.inline lit).compile c).result = .ok (s.inline lit).statement

variable {c : Config}

theorem traces_select (hc : c.Unmarked) {q : Query} (hq : q.Obeys .selfContained) {s : Sql}
    (h : (q.compile c).result = .ok s) : Traces c (select q) s := by
  have haligned := Query.aligned_compile hc q hq h
  refine ⟨haligned, Sql.outputsLast_of_outputs_eq_nil haligned (Query.outputs_compile c q h), ?_⟩
  intro lit
  exact Compile.result_bind_eq_ok.mpr ⟨_, Query.compile_inline lit c q h, rfl⟩

theorem obeys_probe {q : Query} (hq : q.Obeys .selfContained) : q.probe.Obeys .selfContained := by
  obtain ⟨table, columns, distinct, aggregate, joins, wheres, groupBy, havings, orderBy, limit,
    offset, lock⟩ := q
  rw [Query.Obeys] at hq
  obtain ⟨htable, _, _, hjoins, hwheres, hgroup, hhavings, horder, hlock⟩ := hq
  rw [Query.probe, Query.Obeys]
  refine ⟨htable, ?_, by simp, hjoins, predicatesObey_iff.mpr ?_, hgroup, hhavings, horder, hlock⟩
  · intro item hitem
    rw [List.mem_singleton.mp hitem]
    exact (by decide : SelfContained "1 as \"exists\"")
  · intro p hp
    rcases List.mem_append.mp hp with hp | hp
    · dsimp only at hp
      split at hp
      · rw [List.mem_singleton.mp hp]
        exact hwheres
      · exact predicatesObey_iff.mp hwheres p hp
    · rw [List.mem_singleton.mp hp]
      exact ⟨(by decide : SelfContained "rownum = 1"), rfl⟩

theorem traces_returningKey (hc : c.Unmarked) {i : Insert} (hi : i.Obeys .selfContained) {s : Sql}
    (h : (i.returningKey c).result = .ok s) : Traces c (insertGetId i) s := by
  have hinline : ∀ lit, ((i.inline lit).compileGetId c).result = .ok (s.inline lit).statement :=
    fun lit => Compile.result_bind_eq_ok.mpr ⟨_, Insert.returningKey_inline lit h, rfl⟩
  obtain ⟨_, sql, hsql, rfl⟩ := Insert.returningKey_eq_ok.mp h
  have haligned := Insert.aligned_plain hc hi hsql
  have houtputs := Insert.outputs_plain hsql
  split at hinline
  · next hkey =>
    rw [if_pos hkey]
    exact ⟨haligned, Sql.outputsLast_of_outputs_eq_nil haligned houtputs, hinline⟩
  · next hkey =>
    rw [if_neg hkey]
    have hbody : Sql.Aligned (sql ++ (Sql.ofText " returning "
        ++ Sql.ofText (Identifier.wrap c i.keyColumn) ++ Sql.ofText " into ")) := by
      simp only [Sql.aligned_append, Sql.aligned_ofText]
      exact ⟨haligned, ⟨by decide, hc.writes.wrap hi.keyColumn⟩, by decide⟩
    refine ⟨Sql.aligned_append.mpr ⟨hbody, Sql.aligned_ofOut _⟩, ?_, hinline⟩
    refine Sql.outputsLast_append_ofOuts hbody ?_ [OutBinding.key i.keyColumn]
    rw [Sql.outputs_append, houtputs]
    rfl

theorem traces_blobs (hc : c.Unmarked) {i : Insert} (hi : i.Obeys .selfContained)
    (hbinary : i.binaryColumns ≠ []) {st : Statement} (h : (i.compileBlobs c).result = .ok st) :
    ∃ s : Sql, st = s.statement ∧ Traces c (insertBlobs i) s := by
  obtain ⟨hlength, columns, rows, hrows, rfl⟩ := (Insert.compileBlobs_eq_ok hbinary).mp h
  have harranged := hi.blobRow hrows
  have hbody := Insert.aligned_blobsBody hc hi harranged.1 harranged.2
  refine ⟨_, rfl, Sql.aligned_append.mpr ⟨hbody, Sql.aligned_ofOuts _⟩,
    Sql.outputsLast_append_ofOuts hbody (Insert.outputs_blobsBody c i columns _) _, ?_⟩
  intro lit
  have hinline : (i.inline lit).binaryColumns ≠ [] := hbinary
  refine (Insert.compileBlobs_eq_ok hinline).mpr
    ⟨?_, columns, _, Insert.blobRow_inline lit hrows, ?_⟩
  · rw [Insert.inline, List.length_map]
    exact hlength
  · rw [Insert.inline_blobsSql]
    cases rows <;> rfl

theorem traces_update (hc : c.Unmarked) {u : Update} (hu : u.Obeys .selfContained) {s : Sql}
    (h : (u.body c []).result = .ok s) : Traces c (update u) s := by
  have hnone : ∀ s : Sql, s ∈ ([] : List Sql) → s.Aligned ∧ s.outputs = [] ∧
      ∀ lit, s.inline lit = s := fun s hs => absurd hs List.not_mem_nil
  have haligned := Update.aligned_body hc hu (fun s hs => (hnone s hs).1) h
  refine ⟨haligned, Sql.outputsLast_of_outputs_eq_nil haligned
    (Update.outputs_body (fun s hs => (hnone s hs).2.1) h), fun lit => ?_⟩
  exact Compile.result_bind_eq_ok.mpr
    ⟨_, Update.body_inline lit (fun s hs => (hnone s hs).2.2 lit) h, rfl⟩

theorem traces_updateBlobs (hc : c.Unmarked) {u : Update} (hu : u.Obeys .selfContained)
    (hbinary : u.binaryColumns ≠ []) {st : Statement} (h : (u.compileBlobs c).result = .ok st) :
    ∃ s : Sql, st = s.statement ∧ Traces c (updateBlobs u) s := by
  obtain ⟨body, hbody, rfl⟩ := (Update.compileBlobs_eq_ok hbinary).mp h
  have haligned := Update.aligned_body hc hu (Update.aligned_emptyBlobs hc hu) hbody
  have hreturned : SelfContained
      (Identifier.columnList c (u.binaryColumns.map Prod.fst ++ [u.keyColumn])) := by
    refine hc.writes.columnList (by decide) (List.forall_mem_append.mpr ⟨?_, ?_⟩)
    · intro name hname
      obtain ⟨p, hp, rfl⟩ := List.mem_map.mp hname
      exact hu.binaryColumns p hp
    · exact List.forall_mem_singleton.mpr hu.keyColumn
  have hbefore : Sql.Aligned (body ++ (Sql.ofText " returning " ++ Sql.ofText
      (Identifier.columnList c (u.binaryColumns.map Prod.fst ++ [u.keyColumn]))
      ++ Sql.ofText " into ")) := by
    simp only [Sql.aligned_append, Sql.aligned_ofText]
    exact ⟨haligned, ⟨by decide, hreturned⟩, by decide⟩
  refine ⟨_, rfl, Sql.aligned_append.mpr ⟨hbefore, Sql.aligned_ofOuts _⟩,
    Sql.outputsLast_append_ofOuts hbefore ?_ _, fun lit => ?_⟩
  · rw [Sql.outputs_append,
      Update.outputs_body (Update.outputs_emptyBlobs c u.binaryColumns) hbody]
    rfl
  · have hinline : (u.inline lit).binaryColumns ≠ [] := hbinary
    refine (Update.compileBlobs_eq_ok hinline).mpr ⟨_, Update.body_inline lit
      (Update.inline_emptyBlobs lit c u.binaryColumns) hbody, ?_⟩
    rw [Sql.inline_append, Sql.inline_append, Sql.inline_ofOuts]
    rfl

theorem traces_delete (hc : c.Unmarked) {d : Delete} (hd : d.Obeys .selfContained)
    {st : Statement} (h : (d.compile c).result = .ok st) :
    ∃ s : Sql, st = s.statement ∧ Traces c (delete d) s := by
  obtain ⟨wheres, hwheres, h⟩ := Compile.result_bind_eq_ok.mp h
  cases h
  have haligned : Sql.Aligned (Sql.ofText "delete from "
      ++ Sql.ofText (Identifier.wrapTable c d.table) ++ wheres) := by
    simp only [Sql.aligned_append, Sql.aligned_ofText]
    exact ⟨⟨by decide, hc.writes.wrapTable hd.table⟩, aligned_compileWheres hc hd.wheres hwheres⟩
  refine ⟨_, rfl, haligned, Sql.outputsLast_of_outputs_eq_nil haligned ?_, fun lit => ?_⟩
  · rw [Sql.outputs_append, outputs_compileWheres hwheres]
    rfl
  · refine Compile.result_bind_eq_ok.mpr ⟨_, compileWheres_inline lit hwheres, ?_⟩
    rw [Sql.inline_append]
    rfl

/-- Every statement that is accepted is made of such pieces. -/
theorem exists_traces (hc : c.Unmarked) {d : RowStatement} (hd : d.Obeys .selfContained)
    {st : Statement} (h : (d.compile c).result = .ok st) :
    ∃ s : Sql, st = s.statement ∧ Traces c d s := by
  cases d with
  | select q =>
    obtain ⟨s, hs, h⟩ := Compile.result_bind_eq_ok.mp h
    cases h
    exact ⟨s, rfl, traces_select hc hd hs⟩
  | exists? q =>
    obtain ⟨s, hs, h⟩ := Compile.result_bind_eq_ok.mp h
    cases h
    obtain ⟨haligned, hlast, hinline⟩ := traces_select hc (obeys_probe hd) hs
    refine ⟨s, rfl, haligned, hlast, fun lit => ?_⟩
    have hprobe := hinline lit
    rw [inline, compile, Query.inline_probe] at hprobe
    exact hprobe
  | insert i =>
    obtain ⟨s, hs, h⟩ := Compile.result_bind_eq_ok.mp h
    cases h
    have haligned := Insert.aligned_plain hc hd hs
    refine ⟨s, rfl, haligned,
      Sql.outputsLast_of_outputs_eq_nil haligned (Insert.outputs_plain hs), fun lit => ?_⟩
    exact Compile.result_bind_eq_ok.mpr ⟨_, Insert.plain_inline lit hs, rfl⟩
  | insertGetId i =>
    obtain ⟨s, hs, h⟩ := Compile.result_bind_eq_ok.mp h
    cases h
    exact ⟨s, rfl, traces_returningKey hc hd hs⟩
  | insertBlobs i =>
    by_cases hbinary : i.binaryColumns = []
    · have hkey := (Insert.compileBlobs_eq_ok_of_nil hbinary).mp h
      obtain ⟨s, hs, hkey⟩ := Compile.result_bind_eq_ok.mp hkey
      cases hkey
      obtain ⟨haligned, hlast, hinline⟩ := traces_returningKey hc hd hs
      refine ⟨s, rfl, haligned, hlast, fun lit => ?_⟩
      have hnone : (i.inline lit).binaryColumns = [] := hbinary
      exact (Insert.compileBlobs_eq_ok_of_nil hnone).mpr (hinline lit)
    · exact traces_blobs hc hd hbinary h
  | update u =>
    obtain ⟨s, hs, h⟩ := Compile.result_bind_eq_ok.mp h
    cases h
    exact ⟨s, rfl, traces_update hc hd hs⟩
  | updateBlobs u =>
    by_cases hbinary : u.binaryColumns = []
    · rw [compile, Update.compileBlobs_of_nil hbinary] at h
      obtain ⟨s, hs, h⟩ := Compile.result_bind_eq_ok.mp h
      cases h
      obtain ⟨haligned, hlast, hinline⟩ := traces_update hc hd hs
      refine ⟨s, rfl, haligned, hlast, fun lit => ?_⟩
      have hnone : (u.inline lit).binaryColumns = [] := hbinary
      rw [inline, compile, Update.compileBlobs_of_nil hnone]
      exact hinline lit
    · exact traces_updateBlobs hc hd hbinary h
  | delete d => exact traces_delete hc hd h

/-- **Every parameter stands at its own placeholder.**  The positional binds number the
placeholders, which are as many as parameters and outputs together.  Written into the description
as raw SQL, the values that are bound appear in the text exactly where the placeholder of the
parameter was, and only the nulls stay bound, in their order. -/
theorem params_aligned {c : Config} (hc : c.Unmarked) {d : RowStatement}
    (hd : d.Obeys .selfContained) {st : Statement} (h : (d.compile c).result = .ok st) :
    st.numberedSql = fill (fun k => ":" ++ toString (k + 1)) st.sql ∧
      placeholders .outside st.sql.toList = st.params.length + st.outputs.length ∧
      ∀ lit, ∃ t : Statement, ((d.inline lit).compile c).result = .ok t ∧
        t.sql = fill (shownAt lit st.params) st.sql ∧
        t.params = st.params.filter Value.isNull ∧ t.outputs = st.outputs := by
  obtain ⟨s, rfl, haligned, hlast, hinline⟩ := exists_traces hc hd h
  obtain ⟨hcount, htext⟩ := haligned.text_inline hlast
  refine ⟨numbered_eq_fill s.text, hcount, fun lit => ?_⟩
  obtain ⟨hsql, hparams, houtputs⟩ := htext lit
  exact ⟨(s.inline lit).statement, hinline lit, hsql, hparams, houtputs⟩

/-- A batch whose second row gives its columns in another order. -/
theorem params_aligned_batch :
    let d := insert (((Insert.into "t").row [("a", .int 1), ("b", .null)]).row
      [("b", .text "x"), ("a", .int 2)])
    ∃ st : Statement, (d.compile .standard).result = .ok st ∧
      st.params = [.int 1, .null, .int 2, .text "x"] ∧
      placeholders .outside st.sql.toList = st.params.length + st.outputs.length ∧
      ∀ lit, ∃ t : Statement, ((d.inline lit).compile .standard).result = .ok t ∧
        t.sql = fill (shownAt lit st.params) st.sql ∧
        t.params = st.params.filter Value.isNull ∧ t.outputs = st.outputs := by
  intro d
  have hc : Config.standard.Unmarked := ⟨by decide, by decide⟩
  have hd : d.Obeys .selfContained := by
    refine ⟨(by decide : Unmarked "t"), ?_, ?_, fun _ hp => absurd hp List.not_mem_nil,
      (by decide : Unmarked "id")⟩
    · change ∀ row ∈ ([[("a", .int 1), ("b", .null)], [("b", .text "x"), ("a", .int 2)]] :
        List RowValues), ∀ p ∈ row, Unmarked p.1
      decide
    · rintro row (_ | ⟨_, _ | ⟨_, ⟨⟩⟩⟩) p (_ | ⟨_, _ | ⟨_, ⟨⟩⟩⟩) sql ⟨⟩
  obtain ⟨st, h, hparams⟩ : ∃ st, (d.compile .standard).result = .ok st ∧
      st.params = [.int 1, .null, .int 2, .text "x"] := ⟨_, rfl, rfl⟩
  obtain ⟨_, hcount, hinline⟩ := params_aligned hc hd h
  exact ⟨st, h, hparams, hcount, hinline⟩

end RowStatement

end OracleSql
