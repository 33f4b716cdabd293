import OracleSql.Query.Compile

/-!
# The operators of a query

An operator is the only text of a description that is looked at before it is put into a statement.
It stands in comparisons with a value, with a column and with a part of a date, and these stand in
groups, in subqueries, in joins and in the conditions of a query.

What a compilation that looks at some operators and at nothing else yields is said by
`ChecksOperators`: a result when all are accepted, and the refusal of the first one that is not.
Compilations one after the other check their operators one after the other
(`ChecksOperators.bind`), so the operators of a query are checked in the order in which
`Query.usedOperators` lists them (`Query.checksOperators_compile`), and nothing else is refused.
-/

namespace OracleSql

/-- Whether a condition may use the operator. -/
def isOperator (operator : String) : Bool :=
  operators.contains (Text.lower (Text.trim operator))

theorem isOperator_iff {operator : String} :
    isOperator operator = true ↔ Text.lower (Text.trim operator) ∈ operators :=
  List.contains_iff_mem

/-! ### The operators that are used -/

mutual

def Condition.usedOperators : Condition → List String
  | .compare _ operator _ | .columns _ operator _ | .datePart _ _ operator _ => [operator]
  | .group members => predicateOperators members
  | .subquery query _ => query.usedOperators
  | .oneOf _ _ _ | .isNull _ _ | .between _ _ _ _ | .raw _ _ => []

def predicateOperators : List Predicate → List String
  | [] => []
  | ⟨_, condition⟩ :: rest => condition.usedOperators ++ predicateOperators rest

def joinOperators : List Join → List String
  | [] => []
  | ⟨_, _, on⟩ :: rest => predicateOperators on ++ joinOperators rest

/-- **The operators in a query**, at every depth: those of its joins, of its conditions and of the
conditions on its groups. -/
def Query.usedOperators : Query → List String
  | ⟨_, _, _, _, joins, wheres, _, havings, _, _, _, _⟩ =>
    joinOperators joins ++ (predicateOperators wheres ++ predicateOperators havings)

end

theorem predicateOperators_append (first second : List Predicate) :
    predicateOperators (first ++ second)
      = predicateOperators first ++ predicateOperators second := by
  induction first with
  | nil => rfl
  | cons p rest ih =>
    obtain ⟨connector, condition⟩ := p
    rw [List.cons_append, predicateOperators, predicateOperators, ih, List.append_assoc]

/-- The probe uses the operators of its query: a group adds none, and the row bound is raw. -/
theorem Query.usedOperators_probe (q : Query) : q.probe.usedOperators = q.usedOperators := by
  cases q
  rw [Query.probe, Query.usedOperators, Query.usedOperators, predicateOperators_append]
  split <;>
    simp [predicateOperators, Condition.usedOperators, Predicate.group, Predicate.raw, Predicate.of]

/-! ### Compilations that check operators -/

variable {α β : Type}

/-- The compilation refuses the first of the operators that is not accepted, and yields a result
when there is none. -/
def ChecksOperators (ops : List String) (x : Compile α) : Prop :=
  match ops.find? fun op => !isOperator op with
  | none => ∃ a, x.result = .ok a
  | some op => x.result = .error (.invalidOperator op)

namespace ChecksOperators

theorem of_ok {x : Compile α} {a : α} (h : x.result = .ok a) : ChecksOperators [] x :=
  ⟨a, h⟩

theorem pure (a : α) : ChecksOperators [] (Pure.pure a : Compile α) :=
  of_ok rfl

/-- **What comes after checks its operators after.** -/
theorem bind {ops others : List String} {x : Compile α} {f : α → Compile β}
    (hx : ChecksOperators ops x) (hf : ∀ a, ChecksOperators others (f a)) :
    ChecksOperators (ops ++ others) (x >>= f) := by
  rw [ChecksOperators, List.find?_append, Compile.result_bind]
  rw [ChecksOperators] at hx
  cases hops : ops.find? fun op => !isOperator op with
  | none =>
    rw [hops] at hx
    obtain ⟨a, ha⟩ := hx
    rw [ha, Option.none_or]
    exact hf a
  | some op =>
    rw [hops] at hx
    rw [hx, Option.some_or]
    rfl

theorem bind_pure {ops : List String} {x : Compile α} (hx : ChecksOperators ops x) (f : α → β) :
    ChecksOperators ops (x >>= fun a => Pure.pure (f a)) := by
  have h := hx.bind fun a => ChecksOperators.pure (f a)
  rwa [List.append_nil] at h

variable {ops : List String} {x : Compile α} (h : ChecksOperators ops x)

include h

/-- **There is a result exactly when every operator is accepted.** -/
theorem exists_ok_iff : (∃ a, x.result = .ok a) ↔ ∀ op ∈ ops, isOperator op = true := by
  rw [ChecksOperators] at h
  cases hops : ops.find? fun op => !isOperator op with
  | none =>
    rw [hops] at h
    refine iff_of_true h fun op hop => ?_
    simpa using List.find?_eq_none.mp hops op hop
  | some op =>
    rw [hops] at h
    refine iff_of_false ?_ fun hall => ?_
    · rintro ⟨a, ha⟩
      cases h.symm.trans ha
    · have hrefused := List.find?_some hops
      simp [hall op (List.mem_of_find?_eq_some hops)] at hrefused

/-- **The error is the refusal of the first operator that is not accepted.** -/
theorem eq_error_iff {e : CompileError} :
    x.result = .error e ↔
      ∃ before op after, ops = before ++ op :: after ∧ (∀ o ∈ before, isOperator o = true) ∧
        isOperator op = false ∧ e = .invalidOperator op := by
  rw [ChecksOperators] at h
  have hsplit (op : String) : ops.find? (fun o => !isOperator o) = some op ↔
      isOperator op = false ∧ ∃ before after, ops = before ++ op :: after ∧
        ∀ o ∈ before, isOperator o = true := by
    rw [List.find?_eq_some_iff_append]
    simp
  cases hops : ops.find? fun op => !isOperator op with
  | none =>
    rw [hops] at h
    obtain ⟨a, ha⟩ := h
    refine iff_of_false (fun he => by cases ha.symm.trans he) ?_
    rintro ⟨before, op, after, heq, hbefore, hop, -⟩
    cases hops.symm.trans ((hsplit op).mpr ⟨hop, before, after, heq, hbefore⟩)
  | some op =>
    rw [hops] at h
    obtain ⟨hop, before, after, heq, hbefore⟩ := (hsplit op).mp hops
    rw [h]
    constructor
    · intro he
      exact ⟨before, op, after, heq, hbefore, hop, (Except.error.inj he).symm⟩
    · rintro ⟨before', op', after', heq', hbefore', hop', rfl⟩
      cases hops.symm.trans ((hsplit op').mpr ⟨hop', before', after', heq', hbefore'⟩)
      rfl

end ChecksOperators

theorem checksOperators_checkOperator (op : String) : ChecksOperators [op] (checkOperator op) := by
  have hcheck : checkOperator op =
      if isOperator op then pure (Text.lower (Text.trim op)) else throw (.invalidOperator op) := rfl
  cases hop : isOperator op with
  | true =>
    have hnone : [op].find? (fun o => !isOperator o) = none := by simp [hop]
    rw [ChecksOperators, hnone, hcheck, if_pos hop]
    exact ⟨_, rfl⟩
  | false =>
    have hsome : [op].find? (fun o => !isOperator o) = some op := by simp [hop]
    rw [ChecksOperators, hsome, hcheck, hop, if_neg Bool.false_ne_true]
    rfl

theorem checksOperators_lockOrPage (q : Query) (body : Sql) :
    ChecksOperators [] (lockOrPage q body) := by
  rw [lockOrPage]
  split
  · exact (ChecksOperators.of_ok (Compile.result_warnIf _ _)).bind_pure _
  · split
    · exact .pure _
    · exact .pure _

/-! ### Conditions, joins and queries -/

section

attribute [local irreducible] Condition.compile compileOperands compileJoins Query.compile
  ChecksOperators

mutual

/-- **A condition checks the operators in it.** -/
theorem Condition.checksOperators_compile (c : Config) :
    ∀ condition : Condition, ChecksOperators condition.usedOperators (condition.compile c)
  | .compare column operator value => by
    rw [Condition.compile, Condition.usedOperators]
    exact (checksOperators_checkOperator operator).bind_pure _
  | .oneOf column values negated => by
    rw [Condition.compile, Condition.usedOperators]
    exact .pure _
  | .isNull column negated => by
    rw [Condition.compile, Condition.usedOperators]
    exact .pure _
  | .between column low high negated => by
    rw [Condition.compile, Condition.usedOperators]
    exact .pure _
  | .columns first operator second => by
    rw [Condition.compile, Condition.usedOperators]
    exact (checksOperators_checkOperator operator).bind_pure _
  | .group members => by
    rw [Condition.compile, Condition.usedOperators]
    exact (checksOperators_compileOperands c members).bind_pure _
  | .subquery query negated => by
    rw [Condition.compile, Condition.usedOperators]
    exact (Query.checksOperators_compile c query).bind_pure _
  | .datePart part column operator value => by
    rw [Condition.compile, Condition.usedOperators]
    exact (checksOperators_checkOperator operator).bind_pure _
  | .raw sql bindings => by
    rw [Condition.compile, Condition.usedOperators]
    exact .pure _

theorem checksOperators_compileOperands (c : Config) :
    ∀ predicates : List Predicate,
      ChecksOperators (predicateOperators predicates) (compileOperands c predicates)
  | [] => by
    rw [compileOperands, predicateOperators]
    exact .pure _
  | ⟨connector, condition⟩ :: rest => by
    rw [compileOperands, predicateOperators]
    refine (Condition.checksOperators_compile c condition).bind fun operand => ?_
    exact (checksOperators_compileOperands c rest).bind_pure _

theorem checksOperators_compileJoins (c : Config) :
    ∀ joins : List Join, ChecksOperators (joinOperators joins) (compileJoins c joins)
  | [] => by
    rw [compileJoins, joinOperators]
    exact .pure _
  | ⟨kind, table, on⟩ :: rest => by
    rw [compileJoins, joinOperators]
    refine (checksOperators_compileOperands c on).bind fun operands => ?_
    exact (checksOperators_compileJoins c rest).bind_pure _

/-- **A query checks the operators in it.** -/
theorem Query.checksOperators_compile (c : Config) :
    ∀ q : Query, ChecksOperators q.usedOperators (q.compile c)
  | ⟨table, columns, distinct, aggregate, joins, wheres, groupBy, havings, orderBy, limit, offset,
      lock⟩ => by
    rw [Query.compile, Query.usedOperators]
    refine (checksOperators_compileJoins c joins).bind fun joined => ?_
    refine (checksOperators_compileOperands c wheres).bind fun whereOperands => ?_
    rw [← List.append_nil (predicateOperators havings)]
    refine (checksOperators_compileOperands c havings).bind fun havingOperands => ?_
    exact checksOperators_lockOrPage _ _

end

end

theorem checksOperators_compileWheres (c : Config) (predicates : List Predicate) :
    ChecksOperators (predicateOperators predicates) (compileWheres c predicates) :=
  ((checksOperators_compileOperands c predicates).bind_pure _).bind_pure _

end OracleSql
