import OracleSql.Proofs.Write.Alignment
import OracleSql.Proofs.Write.Collected

/-!
# Raw values among the parameters

A raw value is SQL that stands in the statement, and so it is no parameter.  Every value of a
comparison, a list, a range, an assignment or a row is looked at for this.  The values that a raw
condition brings along for its own placeholders are not: they are bound as they are, raw ones too.

`RowStatement.raw_params` says that these are the only raw values among the parameters, in all eight
kinds of statements, and `RowStatement.no_raw_params_iff` when there are none.  With a raw value for
the placeholder of a raw condition there is one (`RowStatement.raw_param_of_raw_condition`).
-/

namespace OracleSql

/-- The raw values that a piece binds. -/
def Piece.rawParams (p : Piece) : List Value :=
  p.params.filter Value.isRaw

theorem heldByRaws_rawParams : HeldByRaws Piece.rawParams where
  text _ := rfl
  value v := by
    rw [Piece.rawParams, Piece.params]
    split
    · rfl
    · next hraw => simp [hraw]

theorem filter_isRaw_params (s : Sql) :
    s.params.filter Value.isRaw = s.flatMap Piece.rawParams :=
  List.filter_flatMap

theorem rawParams_ofOuts (binds : List OutBinding) :
    (Sql.ofOuts binds).flatMap Piece.rawParams = [] := by
  rw [Sql.ofOuts, Sql.flatMap_joined (heldByRaws_rawParams.text _), List.flatMap_map,
    List.flatMap_eq_nil_iff]
  intro b _
  rfl

namespace RowStatement

def raws : RowStatement → List (String × List Value)
  | select q | exists? q => q.raws
  | insert _ | insertGetId _ | insertBlobs _ => []
  | update u | updateBlobs u => joinRaws u.joins ++ predicateRaws u.wheres
  | delete d => predicateRaws d.wheres

variable {c : Config}

theorem rawParams_returningKey {i : Insert} {s : Sql} (h : (i.returningKey c).result = .ok s) :
    s.flatMap Piece.rawParams = [] := by
  obtain ⟨_, sql, hsql, rfl⟩ := Insert.returningKey_eq_ok.mp h
  have hplain := Insert.flatMap_plain heldByRaws_rawParams hsql
  split
  · exact hplain
  · simp [hplain, heldByRaws_rawParams.flatMap_ofText, Sql.ofOut, Piece.rawParams, Piece.params]

/-- **The statement binds the raw values that raw conditions bring along**, in their order, and no
others. -/
theorem raw_params {d : RowStatement} {st : Statement} (h : (d.compile c).result = .ok st) :
    st.params.filter Value.isRaw = collectRaws Piece.rawParams d.raws := by
  -- a statement is made of pieces, and what is collected from them is known for each kind
  suffices ∃ s : Sql, st = s.statement ∧
      s.flatMap Piece.rawParams = collectRaws Piece.rawParams d.raws by
    obtain ⟨s, rfl, hs⟩ := this
    exact (filter_isRaw_params s).trans hs
  have hf := heldByRaws_rawParams
  cases d with
  | select q =>
    obtain ⟨s, hs, h⟩ := Compile.result_bind_eq_ok.mp h
    cases h
    exact ⟨s, rfl, Query.flatMap_compile hf c q hs⟩
  | exists? q =>
    obtain ⟨s, hs, h⟩ := Compile.result_bind_eq_ok.mp h
    cases h
    refine ⟨s, rfl, ?_⟩
    have hbound : collectRaws Piece.rawParams [("rownum = 1", [])] = [] := rfl
    rw [Query.flatMap_compile hf c q.probe hs, Query.raws_probe, raws, Query.raws_eq]
    simp only [collectRaws_append, hbound, List.append_nil]
  | insert i =>
    obtain ⟨s, hs, h⟩ := Compile.result_bind_eq_ok.mp h
    cases h
    exact ⟨s, rfl, Insert.flatMap_plain hf hs⟩
  | insertGetId i =>
    obtain ⟨s, hs, h⟩ := Compile.result_bind_eq_ok.mp h
    cases h
    exact ⟨s, rfl, rawParams_returningKey hs⟩
  | insertBlobs i =>
    by_cases hbinary : i.binaryColumns = []
    · obtain ⟨s, hs, h⟩ :=
        Compile.result_bind_eq_ok.mp ((Insert.compileBlobs_eq_ok_of_nil hbinary).mp h)
      cases h
      exact ⟨s, rfl, rawParams_returningKey hs⟩
    · obtain ⟨_, columns, rows, _, rfl⟩ := (Insert.compileBlobs_eq_ok hbinary).mp h
      refine ⟨_, rfl, ?_⟩
      rw [Insert.blobsSql, List.flatMap_append, Insert.flatMap_blobsBody hf, rawParams_ofOuts]
      rfl
  | update u =>
    obtain ⟨s, hs, h⟩ := Compile.result_bind_eq_ok.mp h
    cases h
    exact ⟨s, rfl, Update.flatMap_body hf (fun _ ht => absurd ht List.not_mem_nil) hs⟩
  | updateBlobs u =>
    by_cases hbinary : u.binaryColumns = []
    · rw [compile, Update.compileBlobs_of_nil hbinary] at h
      obtain ⟨s, hs, h⟩ := Compile.result_bind_eq_ok.mp h
      cases h
      exact ⟨s, rfl, Update.flatMap_body hf (fun _ ht => absurd ht List.not_mem_nil) hs⟩
    · obtain ⟨body, hbody, rfl⟩ := (Update.compileBlobs_eq_ok hbinary).mp h
      refine ⟨_, rfl, ?_⟩
      simp only [List.flatMap_append, hf.flatMap_ofText, rawParams_ofOuts, List.append_nil]
      exact Update.flatMap_body hf (Update.flatMap_emptyBlobs hf c u.binaryColumns) hbody
  | delete d => exact Delete.flatMap_compile hf h

/-- **When no raw value is bound.**  The raw values among the parameters of a statement are those
that its raw conditions bring along.  So there are none exactly when no raw condition, at any depth,
brings one along. -/
theorem no_raw_params_iff {d : RowStatement} {st : Statement} (h : (d.compile c).result = .ok st) :
    st.params.filter Value.isRaw = (d.raws.flatMap Prod.snd).filter Value.isRaw ∧
      ((∀ v ∈ st.params, v.isRaw = false) ↔
        ∀ sql bindings, (sql, bindings) ∈ d.raws → ∀ v ∈ bindings, v.isRaw = false) := by
  have hcollected : st.params.filter Value.isRaw = (d.raws.flatMap Prod.snd).filter Value.isRaw := by
    rw [raw_params h, collectRaws, List.filter_flatMap]
    rfl
  refine ⟨hcollected, ?_⟩
  have hnone (values : List Value) :
      (∀ v ∈ values, v.isRaw = false) ↔ values.filter Value.isRaw = [] := by
    simp [List.filter_eq_nil_iff]
  rw [hnone, hcollected, ← hnone]
  constructor
  · intro hall sql bindings hmem v hv
    exact hall v (List.mem_flatMap.mpr ⟨(sql, bindings), hmem, hv⟩)
  · intro hall v hv
    obtain ⟨⟨sql, bindings⟩, hmem, hv⟩ := List.mem_flatMap.mp hv
    exact hall sql bindings hmem v hv

/-- Raw values in a comparison and in a list of a subquery, beside a raw condition that binds a
number. -/
theorem no_raw_params_subquery :
    let orders : Query :=
      { Query.ofTable "orders" with
        wheres := [Predicate.isIn "state" [.raw "user", .text "open"],
          Predicate.of (.raw "total > ?" [.int 5])] }
    let d := select
      { Query.ofTable "users" with
        wheres := [Predicate.group [Predicate.compare "created_at" "<" (.raw "sysdate"),
          Predicate.of (.subquery orders false)]] }
    ∃ st : Statement, (d.compile .standard).result = .ok st ∧ st.params = [.text "open", .int 5] ∧
      ∀ v ∈ st.params, v.isRaw = false := by
  intro orders d
  obtain ⟨st, h, hparams⟩ : ∃ st, (d.compile .standard).result = .ok st ∧
      st.params = [.text "open", .int 5] := ⟨_, rfl, by decide +kernel⟩
  refine ⟨st, h, hparams, (no_raw_params_iff h).2.mpr ?_⟩
  intro sql bindings hmem
  rw [show d.raws = [("total > ?", [.int 5])] from rfl, List.mem_singleton] at hmem
  cases hmem
  simp [Value.isRaw]

/-- **A raw value that is bound**: `sysdate` stands for the placeholder of a raw condition, and the
statement keeps the placeholder and has the expression as its parameter. -/
theorem raw_param_of_raw_condition :
    let d := select
      { Query.ofTable "users" with wheres := [Predicate.of (.raw "created_at < ?" [.raw "sysdate"])] }
    ∃ st : Statement, (d.compile .standard).result = .ok st ∧
      st.sql = "select * from users where created_at < ?" ∧ st.params = [.raw "sysdate"] ∧
      ¬∀ v ∈ st.params, v.isRaw = false := by
  intro d
  obtain ⟨st, h, hsql, hparams⟩ : ∃ st : Statement, (d.compile .standard).result = .ok st ∧
      st.sql = "select * from users where created_at < ?" ∧ st.params = [.raw "sysdate"] :=
    ⟨_, rfl, by decide +kernel, rfl⟩
  refine ⟨st, h, hsql, hparams, fun hall => ?_⟩
  have hraw := hall (.raw "sysdate") (by rw [hparams]; exact List.mem_cons_self)
  cases hraw

end RowStatement

end OracleSql
