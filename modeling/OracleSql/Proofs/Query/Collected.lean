import OracleSql.Query.Compile

/-!
# What a compiled query collects

Text, values and raw conditions are what a compiled query is made of.  Something that is collected
from its pieces, and that neither text nor a value holds, is collected from the raw conditions of the
query: those of its joins, its conditions and its groups, at every depth and in that order
(`Query.flatMap_compile`).
-/

namespace OracleSql

/-! ### Raw conditions -/

mutual

/-- The raw conditions in a condition, each with the values it brings along. -/
def Condition.raws : Condition → List (String × List Value)
  | .group members => predicateRaws members
  | .subquery query _ => query.raws
  | .raw sql bindings => [(sql, bindings)]
  | .compare _ _ _ | .oneOf _ _ _ | .isNull _ _ | .between _ _ _ _ | .columns _ _ _
  | .datePart _ _ _ _ => []

def predicateRaws : List Predicate → List (String × List Value)
  | [] => []
  | ⟨_, condition⟩ :: rest => condition.raws ++ predicateRaws rest

def joinRaws : List Join → List (String × List Value)
  | [] => []
  | ⟨_, _, on⟩ :: rest => predicateRaws on ++ joinRaws rest

/-- **The raw conditions in a query**, at every depth. -/
def Query.raws : Query → List (String × List Value)
  | ⟨_, _, _, _, joins, wheres, _, havings, _, _, _, _⟩ =>
    joinRaws joins ++ predicateRaws wheres ++ predicateRaws havings

end

theorem Query.raws_eq (q : Query) :
    q.raws = joinRaws q.joins ++ predicateRaws q.wheres ++ predicateRaws q.havings := by
  cases q
  rw [Query.raws]

theorem predicateRaws_append (first second : List Predicate) :
    predicateRaws (first ++ second) = predicateRaws first ++ predicateRaws second := by
  induction first with
  | nil => rfl
  | cons p rest ih =>
    obtain ⟨connector, condition⟩ := p
    rw [List.cons_append, predicateRaws, predicateRaws, ih, List.append_assoc]

theorem Query.raws_probe (q : Query) :
    q.probe.raws = joinRaws q.joins ++ (predicateRaws q.wheres ++ [("rownum = 1", [])])
      ++ predicateRaws q.havings := by
  rw [Query.probe, Query.raws, predicateRaws_append]
  split
  · simp [predicateRaws, Condition.raws, Predicate.group, Predicate.raw, Predicate.of]
  · simp [predicateRaws, Condition.raws, Predicate.raw, Predicate.of]

/-! ### Parts of a statement -/

variable {α : Type}

/-- Something to collect from pieces that neither text nor a value holds. -/
structure HeldByRaws (f : Piece → List α) : Prop where
  text : ∀ s, f (.text s) = []
  value : ∀ v, f (.value v) = []

/-- What is collected from raw conditions. -/
def collectRaws (f : Piece → List α) (raws : List (String × List Value)) : List α :=
  raws.flatMap fun r => f (.raw r.1 r.2)

theorem collectRaws_append (f : Piece → List α) (first second : List (String × List Value)) :
    collectRaws f (first ++ second) = collectRaws f first ++ collectRaws f second :=
  List.flatMap_append

namespace HeldByRaws

variable {f : Piece → List α} (hf : HeldByRaws f)

include hf

theorem flatMap_ofText (s : String) : (Sql.ofText s).flatMap f = [] := by
  simp [Sql.ofText, hf.text]

theorem flatMap_ofValue (v : Value) : (Sql.ofValue v).flatMap f = [] := by
  simp [Sql.ofValue, hf.value]

theorem flatMap_ofValues (values : List Value) : (Sql.ofValues values).flatMap f = [] := by
  rw [Sql.ofValues, Sql.flatMap_joined (hf.text _), List.flatMap_map, List.flatMap_eq_nil_iff]
  exact fun v _ => hf.flatMap_ofValue v

theorem flatMap_connectTo (row : Sql) (operands : List (Connector × Operand)) :
    (connectTo row operands).flatMap f
      = row.flatMap f ++ operands.flatMap fun o => o.2.sql.flatMap f := by
  induction operands generalizing row with
  | nil => simp [connectTo]
  | cons o rest ih =>
    obtain ⟨connector, operand⟩ := o
    rw [connectTo]
    split
    · rw [ih]
      simp
    · rw [ih]
      simp [hf.flatMap_ofText]

theorem flatMap_connect (operands : List (Connector × Operand)) :
    (connect operands).flatMap f = operands.flatMap fun o => o.2.sql.flatMap f := by
  rw [connect, hf.flatMap_connectTo, List.flatMap_nil, List.nil_append]

theorem flatMap_clause (keyword : String) (body : Sql) :
    (clause keyword body).flatMap f = body.flatMap f := by
  rw [clause]
  split
  · rfl
  · simp [hf.flatMap_ofText]

theorem flatMap_compileOneOf (c : Config) (column : String) (values : List Value)
    (negated : Bool) : (compileOneOf c column values negated).flatMap f = [] := by
  have hone (chunk : List Value) : (compileOneOf.one c column negated chunk).flatMap f = [] := by
    simp [compileOneOf.one, hf.flatMap_ofText, hf.flatMap_ofValues]
  rw [compileOneOf]
  split
  · split <;> exact hf.flatMap_ofText _
  · exact hone _
  · rw [List.flatMap_append, List.flatMap_append, Sql.flatMap_joined (hf.text _), List.flatMap_map]
    simp [hone, hf.flatMap_ofText]

theorem flatMap_compileDatePart (c : Config) (part : DatePart) (column op : String)
    (value : Value) : (compileDatePart c part column op value).flatMap f = [] := by
  cases part <;> simp [compileDatePart, hf.flatMap_ofText, hf.flatMap_ofValue]

theorem flatMap_queryClauses (c : Config) (q : Query) (joins wheres havings : Sql) :
    (queryClauses c q joins wheres havings).flatMap f
      = joins.flatMap f ++ wheres.flatMap f ++ havings.flatMap f := by
  simp [queryClauses, hf.flatMap_ofText, hf.flatMap_clause]

theorem flatMap_lockOrPage {q : Query} {body s : Sql} (h : (lockOrPage q body).result = .ok s) :
    s.flatMap f = body.flatMap f := by
  rw [lockOrPage] at h
  split at h
  · obtain ⟨_, _, h⟩ := Compile.result_bind_eq_ok.mp h
    cases h
    simp [hf.flatMap_ofText]
  · split at h
    · cases h
      rw [paginate]
      split <;> simp [hf.flatMap_ofText]
    · cases h
      rfl

end HeldByRaws

/-! ### Conditions, joins and queries -/

section

variable {f : Piece → List α}

attribute [local irreducible] Condition.compile compileOperands compileJoins Query.compile

mutual

/-- **What a condition collects, its raw conditions hold.** -/
theorem Condition.flatMap_compile (hf : HeldByRaws f) (c : Config) :
    ∀ (condition : Condition) {o : Operand}, (condition.compile c).result = .ok o →
      o.sql.flatMap f = collectRaws f condition.raws
  | .compare column operator value, o, h => by
    rw [Condition.compile] at h
    obtain ⟨op, _, h⟩ := Compile.result_bind_eq_ok.mp h
    cases h
    simp [hf.flatMap_ofText, hf.flatMap_ofValue, Condition.raws, collectRaws]
  | .oneOf column values negated, o, h => by
    rw [Condition.compile] at h
    cases h
    simp [hf.flatMap_compileOneOf, Condition.raws, collectRaws]
  | .isNull column negated, o, h => by
    rw [Condition.compile] at h
    cases h
    simp [hf.flatMap_ofText, Condition.raws, collectRaws]
  | .between column low high negated, o, h => by
    rw [Condition.compile] at h
    cases h
    simp [hf.flatMap_ofText, hf.flatMap_ofValue, Condition.raws, collectRaws]
  | .columns first operator second, o, h => by
    rw [Condition.compile] at h
    obtain ⟨op, _, h⟩ := Compile.result_bind_eq_ok.mp h
    cases h
    simp [hf.flatMap_ofText, Condition.raws, collectRaws]
  | .group members, o, h => by
    rw [Condition.compile] at h
    obtain ⟨operands, hoperands, h⟩ := Compile.result_bind_eq_ok.mp h
    have hbody : (connect operands).flatMap f = collectRaws f (predicateRaws members) := by
      rw [hf.flatMap_connect]
      exact flatMap_compileOperands hf c members hoperands
    rw [Condition.raws, ← hbody]
    cases h
    split
    · rfl
    · simp [hf.flatMap_ofText]
  | .subquery query negated, o, h => by
    rw [Condition.compile] at h
    obtain ⟨inner, hinner, h⟩ := Compile.result_bind_eq_ok.mp h
    rw [Condition.raws, ← Query.flatMap_compile hf c query hinner]
    cases h
    simp [hf.flatMap_ofText]
  | .datePart part column operator value, o, h => by
    rw [Condition.compile] at h
    obtain ⟨op, _, h⟩ := Compile.result_bind_eq_ok.mp h
    cases h
    simp [hf.flatMap_compileDatePart, Condition.raws, collectRaws]
  | .raw sql bindings, o, h => by
    rw [Condition.compile] at h
    cases h
    simp [Condition.raws, collectRaws]

theorem flatMap_compileOperands (hf : HeldByRaws f) (c : Config) :
    ∀ (predicates : List Predicate) {operands : List (Connector × Operand)},
      (compileOperands c predicates).result = .ok operands →
        (operands.flatMap fun o => o.2.sql.flatMap f) = collectRaws f (predicateRaws predicates)
  | [], operands, h => by
    rw [compileOperands] at h
    cases h
    rfl
  | ⟨connector, condition⟩ :: rest, operands, h => by
    rw [compileOperands] at h
    obtain ⟨operand, hoperand, h⟩ := Compile.result_bind_eq_ok.mp h
    obtain ⟨others, hothers, h⟩ := Compile.result_bind_eq_ok.mp h
    cases h
    rw [predicateRaws, collectRaws_append, List.flatMap_cons,
      Condition.flatMap_compile hf c condition hoperand, flatMap_compileOperands hf c rest hothers]

theorem flatMap_compileJoins (hf : HeldByRaws f) (c : Config) :
    ∀ (joins : List Join) {s : Sql}, (compileJoins c joins).result = .ok s →
      s.flatMap f = collectRaws f (joinRaws joins)
  | [], s, h => by
    rw [compileJoins] at h
    cases h
    rfl
  | ⟨kind, table, on⟩ :: rest, s, h => by
    rw [compileJoins] at h
    obtain ⟨operands, hoperands, h⟩ := Compile.result_bind_eq_ok.mp h
    obtain ⟨others, hothers, h⟩ := Compile.result_bind_eq_ok.mp h
    rw [joinRaws, collectRaws_append, ← flatMap_compileJoins hf c rest hothers,
      ← flatMap_compileOperands hf c on hoperands, ← hf.flatMap_connect]
    cases h
    simp [hf.flatMap_ofText, hf.flatMap_clause]

/-- **What a query collects, its raw conditions hold.** -/
theorem Query.flatMap_compile (hf : HeldByRaws f) (c : Config) :
    ∀ (q : Query) {s : Sql}, (q.compile c).result = .ok s → s.flatMap f = collectRaws f q.raws
  | ⟨table, columns, distinct, aggregate, joins, wheres, groupBy, havings, orderBy, limit, offset,
      lock⟩, s, h => by
    rw [Query.compile] at h
    obtain ⟨joined, hjoined, h⟩ := Compile.result_bind_eq_ok.mp h
    obtain ⟨whereOperands, hwheres, h⟩ := Compile.result_bind_eq_ok.mp h
    obtain ⟨havingOperands, hhavings, h⟩ := Compile.result_bind_eq_ok.mp h
    rw [hf.flatMap_lockOrPage h, hf.flatMap_queryClauses, hf.flatMap_connect, hf.flatMap_connect,
      flatMap_compileJoins hf c joins hjoined, flatMap_compileOperands hf c wheres hwheres,
      flatMap_compileOperands hf c havings hhavings, Query.raws, collectRaws_append,
      collectRaws_append]

end

end

theorem flatMap_compileWheres {f : Piece → List α} (hf : HeldByRaws f) {c : Config}
    {predicates : List Predicate} {s : Sql} (h : (compileWheres c predicates).result = .ok s) :
    s.flatMap f = collectRaws f (predicateRaws predicates) := by
  obtain ⟨row, hrow, h⟩ := Compile.result_bind_eq_ok.mp h
  obtain ⟨operands, hoperands, hrow⟩ := Compile.result_bind_eq_ok.mp hrow
  cases hrow
  cases h
  rw [hf.flatMap_clause, hf.flatMap_connect]
  exact flatMap_compileOperands hf c predicates hoperands

end OracleSql
