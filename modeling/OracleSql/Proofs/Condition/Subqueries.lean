import OracleSql.Proofs.Condition.Nesting

/-!
# Parentheses of a subquery

A subquery stands in a condition as one pair of parentheses, so all that matters of its text is
that its own parentheses are balanced.  Under the rules `Rules.worded` they are: this file says so
of the parts of a query when it holds of its conditions and joins.
-/

namespace OracleSql

/-- Names are dotted words, values are bound, and no SQL is brought along. -/
def Rules.worded : Rules where
  name := Dotted
  value v := v.isRaw = false
  fragment _ := False
  function := Dotted
  raw _ _ := False

theorem text_ofValue {v : Value} (h : v.isRaw = false) : (Sql.ofValue v).text = "?" := by
  cases v with
  | raw sql => cases h
  | _ => rfl

variable {c : Config}

/-- **The texts of a query are balanced.** -/
theorem balanced_writes (hc : c.Worded) : Rules.worded.Writes c Balanced where
  composes := Balanced.composes
  plain _ := .of_plain
  parentheses _ := Balanced.parentheses
  column _ := hc.writes.wrap
  table _ := hc.writes.wrapTable
  fragment _ h := h.elim
  trimmed _ h := h.elim
  function _ := .of_dotted

theorem balanced_clause {keyword : String} (hkeyword : Balanced keyword) {body : Sql}
    (h : Balanced body.text) : Balanced (clause keyword body).text := by
  rw [clause]
  split
  · exact h
  · rw [Sql.text_append, Sql.text_ofText]
    exact hkeyword.append h

theorem balanced_queryClauses (hc : c.Worded) {q : Query} {joins wheres havings : Sql}
    (htable : Dotted q.table) (hcolumns : ∀ item ∈ q.columns, item.Obeys .worded)
    (haggregate : ∀ a ∈ q.aggregate, a.Obeys .worded) (hgroup : ∀ name ∈ q.groupBy, Dotted name)
    (horder : ∀ item ∈ q.orderBy, item.Obeys .worded) (hjoins : Balanced joins.text)
    (hwheres : Balanced wheres.text) (hhavings : Balanced havings.text) :
    Balanced (queryClauses c q joins wheres havings).text := by
  have htexts := balanced_writes hc
  have hfrom : Balanced " from " := by decide
  simp only [queryClauses, Sql.text_append, Sql.text_ofText]
  exact ((((((htexts.selectList hcolumns haggregate).append hfrom).append
    (hc.writes.wrapTable htable)).append hjoins).append
    (balanced_clause (by decide) hwheres)).append (htexts.groupClause hgroup)).append
    (balanced_clause (by decide) hhavings) |>.append (htexts.orderClause horder)

/-- The page of a balanced query: what stands around it opens parentheses before it and closes
them behind it. -/
theorem balanced_paginate (hc : c.Worded) {inner : Sql} (h : Balanced inner.text)
    (limit offset : UInt64) : Balanced (paginate inner limit offset).text := by
  have hconstraint := (balanced_writes hc).rowConstraint limit offset
  rw [paginate]
  split
  · have hopen : Nests 0 2 "select t2.* from (select rownum as \"rn\", t1.* from (" := by
      decide +kernel
    have hclose : Nests 2 0 ") t1) t2 where t2.\"rn\" " := by decide +kernel
    simp only [Sql.text_append, Sql.text_ofText]
    exact ((hopen.append (h.within 2)).append hclose).append hconstraint
  · have hopen : Nests 0 1 "select * from (" := by decide
    have hclose : Nests 1 0 ") where rownum " := by decide
    simp only [Sql.text_append, Sql.text_ofText]
    exact ((hopen.append (h.within 1)).append hclose).append hconstraint

theorem balanced_lockOrPage (hc : c.Worded) {q : Query} (hlock : ∀ l ∈ q.lock, l.Obeys .worded)
    {body s : Sql} (hbody : Balanced body.text) (h : (lockOrPage q body).result = .ok s) :
    Balanced s.text := by
  rw [lockOrPage] at h
  split at h
  · obtain ⟨_, _, h⟩ := Compile.result_bind_eq_ok.mp h
    cases h
    rw [Sql.text_append, Sql.text_ofText]
    exact hbody.append ((balanced_writes hc).lockClause hlock)
  · split at h
    · cases h
      exact balanced_paginate hc hbody _ _
    · cases h
      exact hbody

end OracleSql
