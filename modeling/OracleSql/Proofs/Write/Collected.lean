import OracleSql.Proofs.Query.Collected
import OracleSql.Proofs.Write.Accepted

/-!
# What a compiled write collects

The collections of `Proofs/Query/Collected.lean` carried over to inserts, updates and deletes.  Rows
and assignments are values, so an insert holds nothing to collect, and an update and a delete hold
what the raw conditions of their joins and conditions do.
-/

namespace OracleSql

variable {α : Type} {f : Piece → List α}

namespace Insert

theorem flatMap_rowsClause (hf : HeldByRaws f) (rows : List (List Value)) :
    (rowsClause rows).flatMap f = [] := by
  unfold rowsClause
  split
  · simp [hf.flatMap_ofText, hf.flatMap_ofValues]
  · rw [List.flatMap_append, hf.flatMap_ofText, Sql.flatMap_joined (hf.text _), List.flatMap_map,
      List.nil_append, List.flatMap_eq_nil_iff]
    intro row _
    simp [hf.flatMap_ofText, hf.flatMap_ofValues]

theorem flatMap_plain (hf : HeldByRaws f) {c : Config} {i : Insert} {s : Sql}
    (h : (i.plain c).result = .ok s) : s.flatMap f = [] := by
  obtain ⟨columns, rows, _, _, rfl⟩ := plain_eq_ok.mp h
  rw [List.flatMap_append, hf.flatMap_ofText, flatMap_rowsClause hf, List.nil_append]

theorem flatMap_blobsBody (hf : HeldByRaws f) (c : Config) (i : Insert) (columns : List String)
    (values : List Value) : (i.blobsBody c columns values).flatMap f = [] := by
  have hvalues : (Sql.joined ", " (values.map Sql.ofValue
      ++ (i.binaryColumns.map Prod.fst).map fun _ => Sql.ofText "EMPTY_BLOB()")).flatMap f = [] := by
    rw [Sql.flatMap_joined (hf.text _), List.flatMap_eq_nil_iff]
    intro s hs
    rcases List.mem_append.mp hs with hs | hs
    · obtain ⟨v, _, rfl⟩ := List.mem_map.mp hs
      exact hf.flatMap_ofValue v
    · obtain ⟨column, _, rfl⟩ := List.mem_map.mp hs
      exact hf.flatMap_ofText _
  simp only [blobsBody, List.flatMap_append, hf.flatMap_ofText, hvalues, List.nil_append]

end Insert

namespace Update

theorem flatMap_body (hf : HeldByRaws f) {c : Config} {u : Update} {further : List Sql} {s : Sql}
    (hfurther : ∀ t ∈ further, t.flatMap f = []) (h : (u.body c further).result = .ok s) :
    s.flatMap f = collectRaws f (joinRaws u.joins ++ predicateRaws u.wheres) := by
  obtain ⟨_, joins, wheres, hjoins, hwheres, rfl⟩ := body_eq_ok.mp h
  have hassigned : (Sql.joined ", " (u.assignments.map (fun a =>
      (Sql.ofText (Identifier.wrap c a.1) ++ Sql.ofText " = ") ++ Sql.ofValue a.2)
        ++ further)).flatMap f = [] := by
    rw [Sql.flatMap_joined (hf.text _), List.flatMap_eq_nil_iff]
    intro s hs
    rcases List.mem_append.mp hs with hs | hs
    · obtain ⟨a, _, rfl⟩ := List.mem_map.mp hs
      simp [hf.flatMap_ofText, hf.flatMap_ofValue]
    · exact hfurther s hs
  simp only [List.flatMap_append, hf.flatMap_ofText, hassigned, List.nil_append, List.append_nil,
    flatMap_compileJoins hf c _ hjoins, flatMap_compileWheres hf hwheres, collectRaws_append]

theorem flatMap_emptyBlobs (hf : HeldByRaws f) (c : Config) (binary : BinaryColumns) :
    ∀ t ∈ emptyBlobs c binary, t.flatMap f = [] := by
  intro t ht
  obtain ⟨column, _, rfl⟩ := List.mem_map.mp ht
  exact hf.flatMap_ofText _

end Update

theorem Delete.flatMap_compile (hf : HeldByRaws f) {c : Config} {d : Delete} {st : Statement}
    (h : (d.compile c).result = .ok st) :
    ∃ s : Sql, st = s.statement ∧ s.flatMap f = collectRaws f (predicateRaws d.wheres) := by
  obtain ⟨wheres, hwheres, h⟩ := Compile.result_bind_eq_ok.mp h
  cases h
  refine ⟨_, rfl, ?_⟩
  simp [hf.flatMap_ofText, flatMap_compileWheres hf hwheres]

end OracleSql
