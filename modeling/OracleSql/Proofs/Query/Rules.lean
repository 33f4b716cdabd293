import OracleSql.Query.Compile

/-!
# Rules for the parts of a query

Much of what holds of a compiled query holds under a condition on its names, its values, and the
SQL that it brings along.  `Rules` is such a condition, and `Query.Obeys` says that a query keeps
to it at every depth.
-/

namespace OracleSql

/-- What is asked of the parts of a description. -/
structure Rules where
  /-- Of the names of tables and columns. -/
  name : String → Prop
  value : Value → Prop
  /-- Of SQL in a select list, in an order or as a lock. -/
  fragment : String → Prop
  /-- Of the name of an aggregate. -/
  function : String → Prop
  /-- Of SQL as a condition. -/
  raw : String → List Value → Prop

def SelectItem.Obeys (r : Rules) : SelectItem → Prop
  | column name => r.name name
  | raw sql => r.fragment sql

def SortItem.Obeys (r : Rules) : SortItem → Prop
  | column name _ => r.name name
  | raw sql => r.fragment sql

def Lock.Obeys (r : Rules) : Lock → Prop
  | raw sql => r.fragment sql
  | _ => True

structure Aggregate.Obeys (r : Rules) (a : Aggregate) : Prop where
  function : r.function a.function
  columns : ∀ name ∈ a.columns, r.name name

mutual

/-- **The parts of a condition keep to the rules**, at every depth. -/
def Condition.Obeys (r : Rules) : Condition → Prop
  | .compare column _ value => r.name column ∧ r.value value
  | .oneOf column values _ => r.name column ∧ ∀ v ∈ values, r.value v
  | .isNull column _ => r.name column
  | .between column low high _ => r.name column ∧ r.value low ∧ r.value high
  | .columns first _ second => r.name first ∧ r.name second
  | .group members => predicatesObey r members
  | .subquery query _ => query.Obeys r
  | .datePart _ column _ value => r.name column ∧ r.value value
  | .raw sql bindings => r.raw sql bindings

def predicatesObey (r : Rules) : List Predicate → Prop
  | [] => True
  | ⟨_, condition⟩ :: rest => condition.Obeys r ∧ predicatesObey r rest

def joinsObey (r : Rules) : List Join → Prop
  | [] => True
  | ⟨_, table, on⟩ :: rest => r.name table ∧ predicatesObey r on ∧ joinsObey r rest

/-- **The parts of a query keep to the rules**, at every depth. -/
def Query.Obeys (r : Rules) : Query → Prop
  | ⟨table, columns, _, aggregate, joins, wheres, groupBy, havings, orderBy, _, _, lock⟩ =>
    r.name table ∧ (∀ item ∈ columns, item.Obeys r) ∧ (∀ a ∈ aggregate, a.Obeys r) ∧
      joinsObey r joins ∧ predicatesObey r wheres ∧ (∀ name ∈ groupBy, r.name name) ∧
      predicatesObey r havings ∧ (∀ item ∈ orderBy, item.Obeys r) ∧ ∀ l ∈ lock, l.Obeys r

end

theorem predicatesObey_iff {r : Rules} {predicates : List Predicate} :
    predicatesObey r predicates ↔ ∀ p ∈ predicates, p.condition.Obeys r := by
  induction predicates with
  | nil => simp [predicatesObey]
  | cons p rest ih =>
    obtain ⟨connector, condition⟩ := p
    rw [predicatesObey, List.forall_mem_cons, ih]

theorem mem_operators_of_checkOperator {operator op : String}
    (h : (checkOperator operator).result = .ok op) : op ∈ operators := by
  rw [checkOperator] at h
  split at h
  · next hmem =>
    rw [Compile.result_pure, Except.ok.injEq] at h
    rw [← h]
    exact List.contains_iff_mem.mp hmem
  · rw [Compile.result_throw] at h
    cases h

end OracleSql
