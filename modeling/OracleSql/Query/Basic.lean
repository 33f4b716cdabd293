import OracleSql.Value

/-!
# Queries

A `Query` says which rows are wanted in no dialect: the table and its joins, the conditions, the
grouping, the order, a page and a lock.  Conditions form a tree: a `group` stands in parentheses
and a `subquery` asks whether a whole query has rows, so queries and predicates are defined
together.  In a list of predicates each one carries the `Connector` that joins it to those before.
-/

namespace OracleSql

/-- How a predicate is joined to the ones before it. -/
inductive Connector where
  | and | or
deriving DecidableEq, Inhabited

def Connector.keyword : Connector → String
  | and => "and"
  | or => "or"

inductive DatePart where
  | date | time | day | month | year
deriving DecidableEq

inductive JoinKind where
  | inner | left | right | cross
deriving DecidableEq

def JoinKind.keyword : JoinKind → String
  | inner => "inner"
  | left => "left"
  | right => "right"
  | cross => "cross"

inductive Direction where
  | asc | desc
deriving DecidableEq, Inhabited

def Direction.keyword : Direction → String
  | asc => "asc"
  | desc => "desc"

inductive SelectItem where
  /-- A column, possibly qualified (`users.id`) or with an alias (`name as n`). -/
  | column (name : String)
  /-- SQL that stands as it is. -/
  | raw (sql : String)
deriving DecidableEq

inductive SortItem where
  | column (name : String) (direction : Direction)
  | raw (sql : String)
deriving DecidableEq

/-- The row lock that a query asks for. -/
inductive Lock where
  | update
  /-- A shared lock.  Rows have none, so it adds nothing. -/
  | shared
  /-- A lock clause that stands as it is. -/
  | raw (sql : String)
deriving DecidableEq

/-- Whether the lock adds a clause. -/
def Lock.isRequested : Lock → Bool
  | update => true
  | shared => false
  | raw sql => !Text.isAllBlank sql

/-- An aggregate that takes the place of the select list. -/
structure Aggregate where
  function : String
  columns : List String
deriving DecidableEq

mutual

/-- A condition and the connector that joins it to the conditions before it. -/
structure Predicate where
  connector : Connector
  condition : Condition

inductive Condition where
  /-- A comparison, `column operator value`. -/
  | compare (column operator : String) (value : Value)
  /-- A list of values, `column [not] in (values)`. -/
  | oneOf (column : String) (values : List Value) (negated : Bool)
  /-- A test for null, `column is [not] null`. -/
  | isNull (column : String) (negated : Bool)
  /-- A range, `column [not] between low and high`. -/
  | between (column : String) (low high : Value) (negated : Bool)
  /-- A comparison of two columns, `first operator second`. -/
  | columns (first operator second : String)
  /-- A list of predicates in parentheses. -/
  | group (members : List Predicate)
  /-- A test for rows, `[not] exists (query)`. -/
  | subquery (query : Query) (negated : Bool)
  /-- A part of a date compared with a value. -/
  | datePart (part : DatePart) (column operator : String) (value : Value)
  /-- SQL that stands as it is, with the values for its own placeholders. -/
  | raw (sql : String) (bindings : List Value)

structure Join where
  kind : JoinKind
  table : String
  on : List Predicate

structure Query where
  table : String
  /-- The select list; an empty one means every column. -/
  columns : List SelectItem
  distinct : Bool
  aggregate : Option Aggregate
  joins : List Join
  wheres : List Predicate
  groupBy : List String
  havings : List Predicate
  orderBy : List SortItem
  limit : Option UInt64
  offset : Option UInt64
  lock : Option Lock

end

namespace Predicate

/-- The condition joined by `and`. -/
def of (condition : Condition) : Predicate :=
  ⟨.and, condition⟩

/-- The same condition joined by `or`. -/
def or (p : Predicate) : Predicate :=
  { p with connector := .or }

def compare (column operator : String) (value : Value) : Predicate :=
  of (.compare column operator value)

def eq (column : String) (value : Value) : Predicate :=
  compare column "=" value

def isIn (column : String) (values : List Value) : Predicate :=
  of (.oneOf column values false)

def notIn (column : String) (values : List Value) : Predicate :=
  of (.oneOf column values true)

def isNull (column : String) : Predicate :=
  of (.isNull column false)

def columns (first operator second : String) : Predicate :=
  of (.columns first operator second)

def datePart (part : DatePart) (column operator : String) (value : Value) : Predicate :=
  of (.datePart part column operator value)

def raw (sql : String) : Predicate :=
  of (.raw sql [])

def group (members : List Predicate) : Predicate :=
  of (.group members)

end Predicate

namespace Join

/-- Join where two columns are equal. -/
def onEqual (kind : JoinKind) (table first second : String) : Join :=
  ⟨kind, table, [Predicate.columns first "=" second]⟩

end Join

namespace Query

/-- Every row and column of a table. -/
def ofTable (table : String) : Query where
  table := table
  columns := []
  distinct := false
  aggregate := none
  joins := []
  wheres := []
  groupBy := []
  havings := []
  orderBy := []
  limit := none
  offset := none
  lock := none

def column (q : Query) (name : String) : Query :=
  { q with columns := q.columns ++ [.column name] }

def sort (q : Query) (name : String) (direction : Direction) : Query :=
  { q with orderBy := q.orderBy ++ [.column name direction] }

def join (q : Query) (j : Join) : Query :=
  { q with joins := q.joins ++ [j] }

def hasLock (q : Query) : Bool :=
  q.lock.any Lock.isRequested

/-- Whether the query asks for a page: a limit or an offset above zero. -/
def isPaginated (q : Query) : Bool :=
  decide (0 < q.limit.getD 0) || decide (0 < q.offset.getD 0)

end Query

end OracleSql
