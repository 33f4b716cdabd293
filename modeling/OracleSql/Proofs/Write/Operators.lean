import OracleSql.Proofs.Query.Operators
import OracleSql.Proofs.Write.Alignment

/-!
# The operators of a statement

Queries, deletes and updates look for rows.  Their compilations check operators as that of a query
does (`Proofs/Query/Operators.lean`), and an update that assigns something is refused for nothing
else either.  So an operator that is not accepted stands in no statement, wherever its condition is
(`RowStatement.operators_checked`).
-/

namespace OracleSql

/-- An update that assigns something checks the operators of its joins and of its conditions. -/
theorem Update.checksOperators_body (c : Config) (u : Update) {further : List Sql}
    (hassigned : ¬(u.assignments = [] ∧ further = [])) :
    ChecksOperators (joinOperators u.joins ++ predicateOperators u.wheres) (u.body c further) := by
  have hsome : ¬(u.assignments.isEmpty && further.isEmpty) = true := by simpa using hassigned
  rw [Update.body]
  dsimp only
  rw [if_neg hsome]
  refine (checksOperators_compileJoins c u.joins).bind fun joins => ?_
  exact (checksOperators_compileWheres c u.wheres).bind_pure _

namespace RowStatement

def usedOperators : RowStatement → List String
  | select q | exists? q => q.usedOperators
  | insert _ | insertGetId _ | insertBlobs _ => []
  | update u | updateBlobs u => joinOperators u.joins ++ predicateOperators u.wheres
  | delete d => predicateOperators d.wheres

/-- The statement looks for rows, and it assigns something if it is an update. -/
def LooksForRows : RowStatement → Prop
  | select _ | exists? _ | delete _ => True
  | insert _ | insertGetId _ | insertBlobs _ => False
  | update u => u.assignments ≠ []
  | updateBlobs u => u.assignments ≠ [] ∨ u.binaryColumns ≠ []

variable {c : Config}

/-- **A statement that looks for rows checks the operators in it.** -/
theorem checksOperators_compile {d : RowStatement} (hd : d.LooksForRows) :
    ChecksOperators d.usedOperators (d.compile c) := by
  cases d with
  | select q => exact (Query.checksOperators_compile c q).bind_pure _
  | exists? q =>
    rw [usedOperators, ← Query.usedOperators_probe]
    exact (Query.checksOperators_compile c q.probe).bind_pure _
  | insert i | insertGetId i | insertBlobs i => exact hd.elim
  | update u => exact (u.checksOperators_body c fun hnone => hd hnone.1).bind_pure _
  | updateBlobs u =>
    rw [compile]
    by_cases hbinary : u.binaryColumns = []
    · have hassigned : u.assignments ≠ [] := hd.resolve_right fun hne => hne hbinary
      rw [Update.compileBlobs_of_nil hbinary]
      exact (u.checksOperators_body c fun hnone => hassigned hnone.1).bind_pure _
    · have hsome : ¬u.binaryColumns.isEmpty = true := by simpa using hbinary
      rw [Update.compileBlobs]
      dsimp only
      rw [if_neg hsome]
      exact (u.checksOperators_body c fun hnone => hbinary (by simpa using hnone.2)).bind_pure _
  | delete d => exact (checksOperators_compileWheres c d.wheres).bind_pure _

/-- **Operators are checked at every depth.**  A query, the question whether it has rows, a delete
and an update that assigns something are compiled exactly when every operator in them is one of the
list, in lower case and without white space around it.  Otherwise the error names the first operator
that is not, as it was given. -/
theorem operators_checked {d : RowStatement} (hd : d.LooksForRows) :
    ((∃ st, (d.compile c).result = .ok st) ↔
        ∀ op ∈ d.usedOperators, Text.lower (Text.trim op) ∈ operators) ∧
      ∀ e, (d.compile c).result = .error e ↔
        ∃ before op after, d.usedOperators = before ++ op :: after ∧
          (∀ o ∈ before, Text.lower (Text.trim o) ∈ operators) ∧
          Text.lower (Text.trim op) ∉ operators ∧ e = .invalidOperator op := by
  have hchecks := checksOperators_compile (c := c) hd
  have hrefused (op : String) : isOperator op = false ↔ Text.lower (Text.trim op) ∉ operators := by
    rw [← isOperator_iff, Bool.not_eq_true]
  refine ⟨?_, fun e => ?_⟩
  · simp only [hchecks.exists_ok_iff, isOperator_iff]
  · simp only [hchecks.eq_error_iff, isOperator_iff, hrefused]

/-- An update with an operator that is not accepted in a subquery, inside a group of a join. -/
theorem operators_checked_nested :
    let recent : Query :=
      { Query.ofTable "orders" with
        wheres := [Predicate.compare "total" " >= " (.int 5), Predicate.columns "a" "= 1 or" "b"] }
    let u : Update :=
      { Update.of "users" with
        assignments := [("state", .text "open")]
        joins := [⟨.inner, "teams", [Predicate.compare "name" " LIKE " (.text "a%"),
          Predicate.group [Predicate.of (.subquery recent true)]]⟩]
        wheres := [Predicate.compare "id" "in" (.int 1)] }
    (update u).LooksForRows ∧ (update u).usedOperators = [" LIKE ", " >= ", "= 1 or", "in"] ∧
      ((update u).compile .standard).result = .error (.invalidOperator "= 1 or") := by
  intro recent u
  have hlooks : (update u).LooksForRows := List.cons_ne_nil _ _
  refine ⟨hlooks, rfl, ((operators_checked hlooks).2 _).mpr ?_⟩
  exact ⟨[" LIKE ", " >= "], "= 1 or", ["in"], rfl, by decide +kernel, by decide +kernel, rfl⟩

end RowStatement

end OracleSql
