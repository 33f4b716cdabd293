import OracleSql.Proofs.Identifier.SelfContained
import OracleSql.Proofs.Query.Texts
import OracleSql.Proofs.Statement.Inlining

/-!
# The placeholders of a query are its values

Under the rules `Rules.selfContained`, no name and no SQL that a query brings along adds or hides
a placeholder: every piece of what it compiles to is aligned (`Query.aligned_compile`).
-/

namespace OracleSql

/-- Names hold no quotes and no question marks, and SQL that is brought along closes its quotes,
holds no placeholder and binds no values. -/
def Rules.selfContained : Rules where
  name := Unmarked
  value v := ∀ sql, v = .raw sql → SelfContained sql
  fragment := SelfContained
  function := SelfContained
  raw sql bindings := SelfContained sql ∧ bindings = []

/-! ### Texts -/

theorem selfContained_operator {operator op : String}
    (h : (checkOperator operator).result = .ok op) : SelfContained op := by
  have hall : ∀ op ∈ operators, SelfContained op := by decide
  exact hall op (mem_operators_of_checkOperator h)

theorem isMark_of_isBlank {c : Char} (h : Text.isBlank c = true) : isMark c = false := by
  rw [isMark, Bool.or_eq_false_iff, Bool.or_eq_false_iff, beq_eq_false_iff_ne,
    beq_eq_false_iff_ne, beq_eq_false_iff_ne]
  refine ⟨⟨?_, ?_⟩, ?_⟩ <;> (rintro rfl; revert h; decide)

theorem SelfContained.trim {s : String} (h : SelfContained s) : SelfContained (Text.trim s) := by
  obtain ⟨before, after, hs, hbefore, hafter⟩ := Text.exists_trimList Text.isBlank s.toList
  obtain ⟨hbeforeAfter, hbeforeZero⟩ :=
    after_of_unmarked (fun c hc => isMark_of_isBlank (hbefore c hc)) .outside
  obtain ⟨hclosed, hzero⟩ := h
  rw [hs, Quoting.after_append, Quoting.after_append, hbeforeAfter,
    (after_of_unmarked (fun c hc => isMark_of_isBlank (hafter c hc)) _).1] at hclosed
  rw [hs, placeholders_append, placeholders_append, hbeforeAfter] at hzero
  rw [SelfContained, Text.trim, String.toList_ofList]
  exact ⟨hclosed, by omega⟩

variable {c : Config}

theorem selfContained_notWord (negated : Bool) : SelfContained (notWord negated) := by
  cases negated <;> decide

theorem SelfContained.of_plain {s : String} (h : Plain s) : SelfContained s := by
  refine .of_unmarked fun ch hch => ?_
  have hplain := h ch hch
  rw [isPlain, Bool.and_eq_true, Bool.and_eq_true, Bool.not_eq_true'] at hplain
  exact hplain.1.1

theorem selfContained_writes (hc : c.Unmarked) : Rules.selfContained.Writes c SelfContained where
  composes := SelfContained.composes
  plain _ := .of_plain
  parentheses _ h := ((by decide : SelfContained "(").append h).append (by decide)
  column _ := hc.writes.wrap
  table _ := hc.writes.wrapTable
  fragment _ h := h
  trimmed _ := SelfContained.trim
  function _ h := h

/-! ### Parts of a query -/

theorem aligned_ofValue {v : Value} (h : Rules.selfContained.value v) :
    Sql.Aligned (Sql.ofValue v) := by
  intro p hp
  rw [List.mem_singleton.mp hp]
  cases v with
  | raw sql => exact h sql rfl
  | _ => trivial

theorem aligned_ofValues {values : List Value} (h : ∀ v ∈ values, Rules.selfContained.value v) :
    Sql.Aligned (Sql.ofValues values) := by
  refine Sql.Aligned.joined (by decide) fun s hs => ?_
  obtain ⟨v, hv, rfl⟩ := List.mem_map.mp hs
  exact aligned_ofValue (h v hv)

theorem aligned_connectTo {row : Sql} {operands : List (Connector × Operand)}
    (hrow : row.Aligned) (h : ∀ o ∈ operands, o.2.sql.Aligned) :
    (connectTo row operands).Aligned := by
  refine connectTo_of_append (fun s t hs ht => Sql.aligned_append.mpr ⟨hs, ht⟩) ?_ hrow h
  intro connector
  have hkeyword : SelfContained connector.keyword := by cases connector <;> decide
  rw [Sql.aligned_append, Sql.aligned_append, Sql.aligned_ofText, Sql.aligned_ofText]
  exact ⟨⟨by decide, hkeyword⟩, by decide⟩

theorem aligned_connect {operands : List (Connector × Operand)}
    (h : ∀ o ∈ operands, o.2.sql.Aligned) : (connect operands).Aligned :=
  aligned_connectTo (fun _ hp => absurd hp List.not_mem_nil) h

theorem aligned_clause {keyword : String} (hkeyword : SelfContained keyword) {body : Sql}
    (h : body.Aligned) : (clause keyword body).Aligned := by
  rw [clause]
  split
  · exact h
  · exact Sql.aligned_append.mpr ⟨Sql.aligned_ofText.mpr hkeyword, h⟩

theorem aligned_compileOneOf (hc : c.Unmarked) {column : String} (hcolumn : Unmarked column)
    {values : List Value} (hvalues : ∀ v ∈ values, Rules.selfContained.value v) (negated : Bool) :
    (compileOneOf c column values negated).Aligned := by
  have hone : ∀ chunk, (∀ v ∈ chunk, Rules.selfContained.value v) →
      (compileOneOf.one c column negated chunk).Aligned := by
    intro chunk hchunk
    simp only [compileOneOf.one, Sql.aligned_append, Sql.aligned_ofText]
    exact ⟨⟨⟨⟨⟨hc.writes.wrap hcolumn, by decide⟩, selfContained_notWord negated⟩, by decide⟩,
      aligned_ofValues hchunk⟩, by decide⟩
  have hmem : ∀ chunk ∈ chunksOf (maxInList - 1) values,
      ∀ v ∈ chunk, Rules.selfContained.value v := by
    intro chunk hchunk v hv
    exact hvalues v (mem_of_mem_chunksOf hchunk hv)
  rw [compileOneOf]
  split
  · cases negated <;> exact Sql.aligned_ofText.mpr (by decide)
  · next chunk hchunks =>
    exact hone chunk (hmem chunk (by rw [hchunks]; exact List.mem_singleton_self chunk))
  · simp only [Sql.aligned_append, Sql.aligned_ofText]
    refine ⟨⟨by decide, Sql.Aligned.joined ?_ fun s hs => ?_⟩, by decide⟩
    · cases negated <;> decide
    · obtain ⟨chunk, hchunk, rfl⟩ := List.mem_map.mp hs
      exact hone chunk (hmem chunk hchunk)

theorem aligned_compileDatePart (hc : c.Unmarked) (part : DatePart) {column op : String}
    (hcolumn : Unmarked column) (hop : SelfContained op) {value : Value}
    (hvalue : Rules.selfContained.value value) :
    (compileDatePart c part column op value).Aligned := by
  have hwrap := hc.writes.wrap hcolumn
  have hshown := aligned_ofValue hvalue
  cases part with
  | date =>
    simp only [compileDatePart, Sql.aligned_append, Sql.aligned_ofText]
    exact ⟨⟨⟨⟨⟨⟨by decide, hwrap⟩, by decide⟩, hop⟩, by decide⟩, hshown⟩, by decide⟩
  | time =>
    simp only [compileDatePart, Sql.aligned_append, Sql.aligned_ofText]
    exact ⟨⟨⟨⟨⟨by decide, hwrap⟩, by decide⟩, hop⟩, by decide⟩, hshown⟩
  | day =>
    simp only [compileDatePart, Sql.aligned_append, Sql.aligned_ofText]
    exact ⟨⟨⟨⟨⟨by decide, hwrap⟩, by decide⟩, hop⟩, by decide⟩, hshown⟩
  | month =>
    simp only [compileDatePart, Sql.aligned_append, Sql.aligned_ofText]
    exact ⟨⟨⟨⟨⟨by decide, hwrap⟩, by decide⟩, hop⟩, by decide⟩, hshown⟩
  | year =>
    simp only [compileDatePart, Sql.aligned_append, Sql.aligned_ofText]
    exact ⟨⟨⟨⟨⟨by decide, hwrap⟩, by decide⟩, hop⟩, by decide⟩, hshown⟩

theorem aligned_queryClauses (hc : c.Unmarked) {q : Query} {joins wheres havings : Sql}
    (htable : Unmarked q.table) (hcolumns : ∀ item ∈ q.columns, item.Obeys .selfContained)
    (haggregate : ∀ a ∈ q.aggregate, a.Obeys .selfContained)
    (hgroup : ∀ name ∈ q.groupBy, Unmarked name)
    (horder : ∀ item ∈ q.orderBy, item.Obeys .selfContained) (hjoins : joins.Aligned)
    (hwheres : wheres.Aligned) (hhavings : havings.Aligned) :
    (queryClauses c q joins wheres havings).Aligned := by
  have htexts := selfContained_writes hc
  simp only [queryClauses, Sql.aligned_append, Sql.aligned_ofText]
  exact ⟨⟨⟨⟨⟨⟨⟨htexts.selectList hcolumns haggregate, by decide⟩, hc.writes.wrapTable htable⟩,
    hjoins⟩, aligned_clause (by decide) hwheres⟩, htexts.groupClause hgroup⟩,
    aligned_clause (by decide) hhavings⟩, htexts.orderClause horder⟩

theorem aligned_paginate (hc : c.Unmarked) {inner : Sql} (h : inner.Aligned)
    (limit offset : UInt64) : (paginate inner limit offset).Aligned := by
  have hconstraint := (selfContained_writes hc).rowConstraint limit offset
  rw [paginate]
  split
  · simp only [Sql.aligned_append, Sql.aligned_ofText]
    exact ⟨⟨⟨by decide, h⟩, by decide⟩, hconstraint⟩
  · simp only [Sql.aligned_append, Sql.aligned_ofText]
    exact ⟨⟨⟨by decide, h⟩, by decide⟩, hconstraint⟩

theorem aligned_lockOrPage (hc : c.Unmarked) {q : Query}
    (hlock : ∀ l ∈ q.lock, l.Obeys .selfContained) {body s : Sql} (hbody : body.Aligned)
    (h : (lockOrPage q body).result = .ok s) : s.Aligned := by
  rw [lockOrPage] at h
  split at h
  · obtain ⟨_, _, h⟩ := Compile.result_bind_eq_ok.mp h
    cases h
    exact Sql.aligned_append.mpr
      ⟨hbody, Sql.aligned_ofText.mpr ((selfContained_writes hc).lockClause hlock)⟩
  · split at h
    · cases h
      exact aligned_paginate hc hbody _ _
    · cases h
      exact hbody

/-! ### Conditions, joins and queries -/

section

attribute [local irreducible] Condition.compile compileOperands compileJoins Query.compile

mutual

theorem Condition.aligned_compile (hc : c.Unmarked) :
    ∀ (condition : Condition) {o : Operand}, condition.Obeys .selfContained →
      (condition.compile c).result = .ok o → o.sql.Aligned
  | .compare column operator value, o, hobeys, h => by
    rw [Condition.Obeys] at hobeys
    rw [Condition.compile] at h
    obtain ⟨op, hop, h⟩ := Compile.result_bind_eq_ok.mp h
    cases h
    simp only [Sql.aligned_append, Sql.aligned_ofText]
    exact ⟨⟨⟨⟨hc.writes.wrap hobeys.1, by decide⟩, selfContained_operator hop⟩, by decide⟩,
      aligned_ofValue hobeys.2⟩
  | .oneOf column values negated, o, hobeys, h => by
    rw [Condition.Obeys] at hobeys
    rw [Condition.compile] at h
    cases h
    exact aligned_compileOneOf hc hobeys.1 hobeys.2 negated
  | .isNull column negated, o, hobeys, h => by
    rw [Condition.Obeys] at hobeys
    rw [Condition.compile] at h
    cases h
    exact Sql.aligned_ofText.mpr ((((hc.writes.wrap hobeys).append (by decide)).append
      (selfContained_notWord negated)).append (by decide))
  | .between column low high negated, o, hobeys, h => by
    rw [Condition.Obeys] at hobeys
    rw [Condition.compile] at h
    cases h
    simp only [Sql.aligned_append, Sql.aligned_ofText]
    exact ⟨⟨⟨⟨⟨⟨hc.writes.wrap hobeys.1, by decide⟩, selfContained_notWord negated⟩, by decide⟩,
      aligned_ofValue hobeys.2.1⟩, by decide⟩, aligned_ofValue hobeys.2.2⟩
  | .columns first operator second, o, hobeys, h => by
    rw [Condition.Obeys] at hobeys
    rw [Condition.compile] at h
    obtain ⟨op, hop, h⟩ := Compile.result_bind_eq_ok.mp h
    cases h
    exact Sql.aligned_ofText.mpr (((((hc.writes.wrap hobeys.1).append (by decide)).append
      (selfContained_operator hop)).append (by decide)).append (hc.writes.wrap hobeys.2))
  | .group members, o, hobeys, h => by
    rw [Condition.Obeys] at hobeys
    rw [Condition.compile] at h
    obtain ⟨operands, hoperands, h⟩ := Compile.result_bind_eq_ok.mp h
    have hbody := aligned_connect (aligned_compileOperands hc members hobeys hoperands)
    cases h
    split
    · exact hbody
    · simp only [Sql.aligned_append, Sql.aligned_ofText]
      exact ⟨⟨by decide, hbody⟩, by decide⟩
  | .subquery query negated, o, hobeys, h => by
    rw [Condition.Obeys] at hobeys
    rw [Condition.compile] at h
    obtain ⟨inner, hinner, h⟩ := Compile.result_bind_eq_ok.mp h
    have haligned := Query.aligned_compile hc query hobeys hinner
    cases h
    simp only [Sql.aligned_append, Sql.aligned_ofText]
    exact ⟨⟨⟨selfContained_notWord negated, by decide⟩, haligned⟩, by decide⟩
  | .datePart part column operator value, o, hobeys, h => by
    rw [Condition.Obeys] at hobeys
    rw [Condition.compile] at h
    obtain ⟨op, hop, h⟩ := Compile.result_bind_eq_ok.mp h
    cases h
    exact aligned_compileDatePart hc part hobeys.1 (selfContained_operator hop) hobeys.2
  | .raw sql bindings, o, hobeys, h => by
    rw [Condition.Obeys] at hobeys
    rw [Condition.compile] at h
    cases h
    exact List.forall_mem_singleton.mpr hobeys

theorem aligned_compileOperands (hc : c.Unmarked) :
    ∀ (predicates : List Predicate) {operands : List (Connector × Operand)},
      predicatesObey .selfContained predicates →
        (compileOperands c predicates).result = .ok operands → ∀ o ∈ operands, o.2.sql.Aligned
  | [], operands, _, h => by
    rw [compileOperands] at h
    cases h
    simp
  | ⟨connector, condition⟩ :: rest, operands, hobeys, h => by
    rw [predicatesObey] at hobeys
    rw [compileOperands] at h
    obtain ⟨operand, hoperand, h⟩ := Compile.result_bind_eq_ok.mp h
    obtain ⟨others, hothers, h⟩ := Compile.result_bind_eq_ok.mp h
    cases h
    intro o ho
    rcases List.mem_cons.mp ho with rfl | ho
    · exact Condition.aligned_compile hc condition hobeys.1 hoperand
    · exact aligned_compileOperands hc rest hobeys.2 hothers o ho

theorem aligned_compileJoins (hc : c.Unmarked) :
    ∀ (joins : List Join) {s : Sql}, joinsObey .selfContained joins →
      (compileJoins c joins).result = .ok s → s.Aligned
  | [], s, _, h => by
    rw [compileJoins] at h
    cases h
    exact fun _ hp => absurd hp List.not_mem_nil
  | ⟨kind, table, on⟩ :: rest, s, hobeys, h => by
    rw [joinsObey] at hobeys
    rw [compileJoins] at h
    obtain ⟨operands, hoperands, h⟩ := Compile.result_bind_eq_ok.mp h
    obtain ⟨others, hothers, h⟩ := Compile.result_bind_eq_ok.mp h
    have hon := aligned_connect (aligned_compileOperands hc on hobeys.2.1 hoperands)
    have hrest := aligned_compileJoins hc rest hobeys.2.2 hothers
    have hkeyword : SelfContained kind.keyword := by cases kind <;> decide
    cases h
    simp only [Sql.aligned_append, Sql.aligned_ofText]
    exact ⟨⟨⟨⟨⟨by decide, hkeyword⟩, by decide⟩, hc.writes.wrapTable hobeys.1⟩,
      aligned_clause (by decide) hon⟩, hrest⟩

/-- **What a query compiles to is aligned.** -/
theorem Query.aligned_compile (hc : c.Unmarked) :
    ∀ (q : Query) {s : Sql}, q.Obeys .selfContained → (q.compile c).result = .ok s → s.Aligned
  | ⟨table, columns, distinct, aggregate, joins, wheres, groupBy, havings, orderBy, limit, offset,
      lock⟩, s, hobeys, h => by
    rw [Query.Obeys] at hobeys
    obtain ⟨htable, hcolumns, haggregate, hjoins, hwheres, hgroup, hhavings, horder, hlock⟩ :=
      hobeys
    rw [Query.compile] at h
    obtain ⟨joined, hjoined, h⟩ := Compile.result_bind_eq_ok.mp h
    obtain ⟨whereOperands, hwhereOperands, h⟩ := Compile.result_bind_eq_ok.mp h
    obtain ⟨havingOperands, hhavingOperands, h⟩ := Compile.result_bind_eq_ok.mp h
    refine aligned_lockOrPage hc ?_ (aligned_queryClauses hc ?_ ?_ ?_ ?_ ?_ ?_ ?_ ?_) h
    · exact hlock
    · exact htable
    · exact hcolumns
    · exact haggregate
    · exact hgroup
    · exact horder
    · exact aligned_compileJoins hc joins hjoins hjoined
    · exact aligned_connect (aligned_compileOperands hc wheres hwheres hwhereOperands)
    · exact aligned_connect (aligned_compileOperands hc havings hhavings hhavingOperands)

end

end

theorem aligned_compileWheres (hc : c.Unmarked) {predicates : List Predicate}
    (hobeys : predicatesObey .selfContained predicates) {s : Sql}
    (h : (compileWheres c predicates).result = .ok s) : s.Aligned := by
  obtain ⟨row, hrow, h⟩ := Compile.result_bind_eq_ok.mp h
  obtain ⟨operands, hoperands, hrow⟩ := Compile.result_bind_eq_ok.mp hrow
  cases hrow
  cases h
  exact aligned_clause (by decide)
    (aligned_connect (aligned_compileOperands hc predicates hobeys hoperands))

end OracleSql
