import OracleSql.Proofs.Write.Collected

/-!
# The outputs of a statement

Only a write that returns something asks for outputs, and it asks for them at its very end.
Outputs are collected from pieces, and no raw condition holds one; so conditions, joins and queries ask
for none (`Query.outputs_compile`).  `Insert.outputs_compileBlobs` and `Update.outputs_compileBlobs`
give the outputs of a write of large objects: the locators in the order of the columns, then the key.
-/

namespace OracleSql

/-! ### Parts of a statement -/

namespace Sql

@[simp] theorem outputs_ofOut (b : OutBinding) : outputs (ofOut b) = [b] := rfl

@[simp] theorem outputs_ofOuts (binds : List OutBinding) : outputs (ofOuts binds) = binds := by
  rw [ofOuts, outputs, flatMap_joined rfl, List.flatMap_map]
  exact List.flatMap_singleton' binds

end Sql

theorem heldByRaws_outputs : HeldByRaws Piece.outputs where
  text _ := rfl
  value _ := rfl

theorem collectRaws_outputs (raws : List (String × List Value)) :
    collectRaws Piece.outputs raws = [] :=
  List.flatMap_eq_nil_iff.mpr fun _ _ => rfl

/-! ### Queries -/

/-- **A query asks for no outputs.** -/
theorem Query.outputs_compile (c : Config) (q : Query) {s : Sql}
    (h : (q.compile c).result = .ok s) : s.outputs = [] :=
  (Query.flatMap_compile heldByRaws_outputs c q h).trans (collectRaws_outputs _)

theorem outputs_compileWheres {c : Config} {predicates : List Predicate} {s : Sql}
    (h : (compileWheres c predicates).result = .ok s) : s.outputs = [] :=
  (flatMap_compileWheres heldByRaws_outputs h).trans (collectRaws_outputs _)

/-! ### Writes -/

namespace Insert

theorem outputs_plain {c : Config} {i : Insert} {s : Sql} (h : (i.plain c).result = .ok s) :
    s.outputs = [] :=
  flatMap_plain heldByRaws_outputs h

theorem outputs_blobsBody (c : Config) (i : Insert) (columns : List String)
    (values : List Value) : (i.blobsBody c columns values).outputs = [] :=
  flatMap_blobsBody heldByRaws_outputs c i columns values

/-- **The outputs of an insert of large objects**: the locators in the order of the columns, and
the key behind them. -/
theorem outputs_compileBlobs {c : Config} {i : Insert} {statement : Statement}
    (hbinary : i.binaryColumns ≠ []) (h : (i.compileBlobs c).result = .ok statement) :
    statement.outputs = locatorBinds i.binaryColumns i.keyColumn := by
  obtain ⟨_, columns, rows, _, rfl⟩ := (compileBlobs_eq_ok hbinary).mp h
  rw [Sql.statement, blobsSql, Sql.outputs_append, outputs_blobsBody, Sql.outputs_ofOuts]
  rfl

end Insert

namespace Update

theorem outputs_body {c : Config} {u : Update} {further : List Sql} {s : Sql}
    (hfurther : ∀ f ∈ further, f.outputs = []) (h : (u.body c further).result = .ok s) :
    s.outputs = [] :=
  (flatMap_body heldByRaws_outputs hfurther h).trans (collectRaws_outputs _)

theorem outputs_emptyBlobs (c : Config) (binary : BinaryColumns) :
    ∀ f ∈ emptyBlobs c binary, f.outputs = [] :=
  flatMap_emptyBlobs heldByRaws_outputs c binary

/-- **The outputs of an update of large objects**: the locators in the order of the columns, and
the key behind them. -/
theorem outputs_compileBlobs {c : Config} {u : Update} {statement : Statement}
    (hbinary : u.binaryColumns ≠ []) (h : (u.compileBlobs c).result = .ok statement) :
    statement.outputs = locatorBinds u.binaryColumns u.keyColumn := by
  obtain ⟨body, hbody, rfl⟩ := (compileBlobs_eq_ok hbinary).mp h
  simp [Sql.statement, outputs_body (outputs_emptyBlobs c u.binaryColumns) hbody]

end Update

end OracleSql
