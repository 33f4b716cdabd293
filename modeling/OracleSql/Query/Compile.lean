import OracleSql.Compile
import OracleSql.Identifier.Basic
import OracleSql.Query.Basic
import OracleSql.Query.Page

/-!
# Compilation of queries

Conditions, joins and queries contain one another, so their compilations are defined together.
A list of predicates becomes a list of operands; `connect` puts them in a row with their
connectors.  An operand that vanishes, which is what a group without text does, takes its
connector with it, and so the first operand that stays opens the row with none.
-/

namespace OracleSql

open Identifier

/-! ### Operators and lists of values -/

/-- The operators a condition may use. -/
def operators : List String :=
  ["=", "<", ">", "<=", ">=", "<>", "!=", "like", "not like", "&", "|", "^"]

/-- **An operator in its written form**: without white space around it, in lower case, and one
of the list. -/
def checkOperator (operator : String) : Compile String :=
  let op := Text.lower (Text.trim operator)
  if operators.contains op then return op else throw (.invalidOperator operator)

/-- The longest list of values in one `in` condition. -/
def maxInList : Nat := 1000

/-- A list cut into pieces of at most `n + 1` entries. -/
def chunksOf {α : Type} (n : Nat) (xs : List α) : List (List α) :=
  match xs with
  | [] => []
  | x :: rest => (x :: rest.take n) :: chunksOf n (rest.drop n)
termination_by xs.length
decreasing_by
  rw [List.length_drop, List.length_cons]
  omega

/-- Cutting a list into pieces loses nothing. -/
theorem flatten_chunksOf {α : Type} (n : Nat) (xs : List α) : (chunksOf n xs).flatten = xs := by
  induction xs using chunksOf.induct n with
  | case1 => simp [chunksOf]
  | case2 x rest ih =>
    rw [chunksOf, List.flatten_cons, ih, List.cons_append, List.take_append_drop]

theorem chunksOf_map {α β : Type} (f : α → β) (n : Nat) (xs : List α) :
    chunksOf n (xs.map f) = (chunksOf n xs).map (List.map f) := by
  induction xs using chunksOf.induct n with
  | case1 => simp [chunksOf]
  | case2 x rest ih =>
    rw [List.map_cons, chunksOf, chunksOf, List.map_cons, List.map_cons, List.map_take,
      ← List.map_drop, ih]

theorem mem_of_mem_chunksOf {α : Type} {n : Nat} {xs chunk : List α} (h : chunk ∈ chunksOf n xs)
    {x : α} (hx : x ∈ chunk) : x ∈ xs := by
  rw [← flatten_chunksOf n xs]
  exact List.mem_flatten.mpr ⟨chunk, h, hx⟩

/-- Whether a word is negated. -/
def notWord (negated : Bool) : String :=
  if negated then "not " else ""

/-- The condition `column [not] in (values)`; a long list is split, and the pieces stand in
parentheses joined by `or`, or by `and` when negated. -/
def compileOneOf (c : Config) (column : String) (values : List Value) (negated : Bool) : Sql :=
  match chunksOf (maxInList - 1) values with
  | [] => if negated then "1 = 1" else "0 = 1"
  | [chunk] => one chunk
  | chunks => "(" ++ Sql.joined (if negated then " and " else " or ") (chunks.map one) ++ ")"
where
  one (chunk : List Value) : Sql :=
    (wrap c column ++ " " ++ notWord negated ++ "in (") ++ Sql.ofValues chunk ++ ")"

/-- A part of a date compared with a value. -/
def compileDatePart (c : Config) (part : DatePart) (column op : String) (value : Value) : Sql :=
  let column := wrap c column
  match part with
  | .date =>
    "trunc(" ++ column ++ ") " ++ op ++ " to_date(" ++ Sql.ofValue value ++ ", 'YYYY-MM-DD')"
  | .time => "to_char(" ++ column ++ ", 'HH24:MI:SS') " ++ op ++ " " ++ Sql.ofValue value
  | .day => "extract (day from " ++ column ++ ") " ++ op ++ " " ++ Sql.ofValue value
  | .month => "extract (month from " ++ column ++ ") " ++ op ++ " " ++ Sql.ofValue value
  | .year => "extract (year from " ++ column ++ ") " ++ op ++ " " ++ Sql.ofValue value

/-! ### Operands and connectors -/

structure Operand where
  sql : Sql
  /-- Whether the condition has no text and drops out together with its connector. -/
  vanishes : Bool

/-- Put operands after what is there, each behind its connector unless nothing is there yet. -/
def connectTo (row : Sql) : List (Connector × Operand) → Sql
  | [] => row
  | (connector, operand) :: rest =>
    if operand.vanishes ∨ row.isBlank then connectTo (row ++ operand.sql) rest
    else connectTo (row ++ (" " ++ connector.keyword ++ " ") ++ operand.sql) rest

/-- What holds of operands and connectors and of texts put together holds of a row. -/
theorem connectTo_of_append {P : Sql → Prop} (happend : ∀ s t : Sql, P s → P t → P (s ++ t))
    (hkeyword : ∀ connector : Connector, P (" " ++ connector.keyword ++ " ")) {row : Sql}
    {operands : List (Connector × Operand)} (hrow : P row) (h : ∀ o ∈ operands, P o.2.sql) :
    P (connectTo row operands) := by
  induction operands generalizing row with
  | nil => exact hrow
  | cons o rest ih =>
    obtain ⟨connector, operand⟩ := o
    have hoperand := h (connector, operand) List.mem_cons_self
    have hrest := fun p hp => h p (List.mem_cons_of_mem _ hp)
    rw [connectTo]
    split
    · exact ih (happend _ _ hrow hoperand) hrest
    · exact ih (happend _ _ (happend _ _ hrow (hkeyword connector)) hoperand) hrest

def connect (operands : List (Connector × Operand)) : Sql :=
  connectTo [] operands

/-- A clause: the keyword before the body, unless the body has no text. -/
def clause (keyword : String) (body : Sql) : Sql :=
  if body.isBlank then body else keyword ++ body

/-! ### The clauses of a query -/

/-- The select list, or the aggregate in its place. -/
def selectList (c : Config) (q : Query) : String :=
  match q.aggregate with
  | some aggregate =>
    let columns := if aggregate.columns.isEmpty then "*" else columnList c aggregate.columns
    "select " ++ aggregate.function ++ "("
      ++ (if q.distinct ∧ columns ≠ "*" then "distinct " else "") ++ columns ++ ") as aggregate"
  | none =>
    let items := q.columns.map fun
      | .column name => wrap c name
      | .raw sql => sql
    (if q.distinct then "select distinct " else "select ")
      ++ (if items.isEmpty then "*" else ", ".intercalate items)

def orderList (c : Config) (items : List SortItem) : String :=
  ", ".intercalate (items.map fun
    | .column name direction => wrap c name ++ " " ++ direction.keyword
    | .raw sql => sql)

/-- Everything but the lock and the page. -/
def queryClauses (c : Config) (q : Query) (joins wheres havings : Sql) : Sql :=
  selectList c q ++ " from " ++ wrapTable c q.table ++ joins
    ++ clause " where " wheres
    ++ (if q.groupBy.isEmpty then "" else " group by " ++ columnList c q.groupBy)
    ++ clause " having " havings
    ++ (if q.orderBy.isEmpty then "" else " order by " ++ orderList c q.orderBy)

def lockClause : Option Lock → String
  | some .update => " for update"
  | some (.raw sql) => " " ++ Text.trim sql
  | _ => ""

/-- **The lock or the page.**  A lock cannot be taken through a page, so the page gives way. -/
def lockOrPage (q : Query) (body : Sql) : Compile Sql :=
  if q.hasLock then do
    Compile.warnIf q.isPaginated (.lockSuppressesPage q.table)
    return body ++ lockClause q.lock
  else if q.isPaginated then return paginate body (q.limit.getD 0) (q.offset.getD 0)
  else return body

/-! ### Conditions, joins and queries -/

mutual

/-- The operand that a condition compiles to. -/
def Condition.compile (c : Config) : Condition → Compile Operand
  | .compare column operator value => do
    let op ← checkOperator operator
    return ⟨wrap c column ++ " " ++ op ++ " " ++ Sql.ofValue value, false⟩
  | .oneOf column values negated => return ⟨compileOneOf c column values negated, false⟩
  | .isNull column negated =>
    return ⟨Sql.ofText (wrap c column ++ " is " ++ notWord negated ++ "null"), false⟩
  | .between column low high negated =>
    return ⟨(wrap c column ++ " " ++ notWord negated ++ "between ") ++ Sql.ofValue low ++ " and "
      ++ Sql.ofValue high, false⟩
  | .columns first operator second => do
    let op ← checkOperator operator
    return ⟨Sql.ofText (wrap c first ++ " " ++ op ++ " " ++ wrap c second), false⟩
  | .group members => do
    let body := connect (← compileOperands c members)
    return if body.isBlank then ⟨body, true⟩ else ⟨"(" ++ body ++ ")", false⟩
  | .subquery query negated => do
    let inner ← query.compile c
    return ⟨(notWord negated ++ "exists (") ++ inner ++ ")", false⟩
  | .datePart part column operator value => do
    let op ← checkOperator operator
    return ⟨compileDatePart c part column op value, false⟩
  | .raw sql bindings => return ⟨[.raw sql bindings], false⟩

/-- The operands of a list of predicates, with their connectors. -/
def compileOperands (c : Config) : List Predicate → Compile (List (Connector × Operand))
  | [] => return []
  | ⟨connector, condition⟩ :: rest => do
    let operand ← condition.compile c
    let operands ← compileOperands c rest
    return (connector, operand) :: operands

def compileJoins (c : Config) : List Join → Compile Sql
  | [] => return []
  | ⟨kind, table, on⟩ :: rest => do
    let on := connect (← compileOperands c on)
    let joins ← compileJoins c rest
    return (" " ++ kind.keyword ++ " join " ++ wrapTable c table) ++ clause " on " on ++ joins

/-- **A query** with its lock or its page. -/
def Query.compile (c : Config) : Query → Compile Sql
  | ⟨table, columns, distinct, aggregate, joins, wheres, groupBy, havings, orderBy, limit, offset,
      lock⟩ => do
    let q : Query :=
      ⟨table, columns, distinct, aggregate, joins, wheres, groupBy, havings, orderBy, limit,
        offset, lock⟩
    let joins ← compileJoins c joins
    let wheres := connect (← compileOperands c wheres)
    let havings := connect (← compileOperands c havings)
    lockOrPage q (queryClauses c q joins wheres havings)

end

/-- The conditions of a list of predicates in a row. -/
def compilePredicates (c : Config) (predicates : List Predicate) : Compile Sql :=
  return connect (← compileOperands c predicates)

def compileWheres (c : Config) (predicates : List Predicate) : Compile Sql :=
  return clause " where " (← compilePredicates c predicates)

theorem compileOperands_append (c : Config) (first second : List Predicate) :
    compileOperands c (first ++ second) = (do
      let operands ← compileOperands c first
      let others ← compileOperands c second
      return operands ++ others) := by
  induction first with
  | nil => simp only [List.nil_append, compileOperands, pure_bind, bind_pure]
  | cons p first ih =>
    obtain ⟨connector, condition⟩ := p
    simp only [List.cons_append, compileOperands, ih, bind_assoc, pure_bind]

namespace Query

/-- The parts of a query are compiled one after another. -/
theorem compile_eq {c : Config} (q : Query) :
    q.compile c = (do
      let joins ← compileJoins c q.joins
      let wheres ← compilePredicates c q.wheres
      let havings ← compilePredicates c q.havings
      lockOrPage q (queryClauses c q joins wheres havings)) := by
  cases q
  simp only [Query.compile, compilePredicates, bind_assoc, pure_bind]

def select (c : Config) (q : Query) : Compile Statement :=
  return (← q.compile c).statement

/-- The query that asks whether rows exist: it selects a constant and stops at the first row.
Conditions joined by `or` are put in a group, so that the row bound applies to all of them. -/
def probe (q : Query) : Query :=
  let wheres :=
    if q.wheres.any fun p => p.connector = .or then [Predicate.group q.wheres] else q.wheres
  { q with
    columns := [.raw "1 as \"exists\""]
    aggregate := none
    wheres := wheres ++ [Predicate.raw "rownum = 1"] }

/-- The statement that asks whether a query has rows. -/
def exists? (c : Config) (q : Query) : Compile Statement :=
  q.probe.select c

end Query

end OracleSql
