import OracleSql.Schema.Column

/-!
# Blueprints

A `Blueprint` describes one change of one table: its columns, new ones and modified ones, and an
ordered list of commands on the table, its keys and its indexes.  It is a plan and no statement;
`OracleSql.Schema.Plan` turns it into statements.
-/

namespace OracleSql

inductive IndexKind where
  | primary | unique | index | foreign | fulltext
deriving DecidableEq

/-- The end of a derived name. -/
def IndexKind.suffix : IndexKind → String
  | primary => "pk"
  | unique => "uk"
  | index => "index"
  | foreign => "fk"
  | fulltext => "fulltext"

/-- An index or constraint on columns; without a name of its own it gets a derived one. -/
structure IndexSpec where
  name : Option String
  columns : List String
deriving DecidableEq

structure ForeignKey where
  name : Option String
  columns : List String
  /-- The table referred to. -/
  on : String
  references : List String
  onDelete : Option String
deriving DecidableEq

/-- The constraint that a foreign key is, for its name. -/
def ForeignKey.spec (f : ForeignKey) : IndexSpec :=
  ⟨f.name, f.columns⟩

inductive SchemaCommand where
  | create
  | add
  /-- Modify the columns marked as changed. -/
  | change
  | drop
  | dropIfExists
  | dropColumns (columns : List String)
  | rename (name : String)
  | renameColumn (old new : String)
  | primary (spec : IndexSpec)
  | unique (spec : IndexSpec)
  | index (spec : IndexSpec)
  | fulltext (spec : IndexSpec)
  | foreign (key : ForeignKey)
  | dropPrimary (spec : IndexSpec)
  | dropUnique (spec : IndexSpec)
  | dropIndex (spec : IndexSpec)
  | dropForeign (spec : IndexSpec)
  | dropFulltext (spec : IndexSpec)
deriving DecidableEq

/-- One change of one table. -/
structure Blueprint where
  name : String
  columns : List Column
  commands : List SchemaCommand
  comment : Option String
  /-- Comments on columns beside those of the columns themselves. -/
  columnComments : List (String × String)
deriving DecidableEq

namespace Blueprint

/-- A blueprint of a table without columns or commands. -/
def of (name : String) : Blueprint :=
  ⟨name, [], [], none, []⟩

def command (b : Blueprint) (c : SchemaCommand) : Blueprint :=
  { b with commands := b.commands ++ [c] }

/-- A blueprint that creates its table. -/
def create (name : String) : Blueprint :=
  (of name).command .create

def column (b : Blueprint) (c : Column) : Blueprint :=
  { b with columns := b.columns ++ [c] }

def isCreating (b : Blueprint) : Bool :=
  b.commands.contains .create

/-- The new columns. -/
def added (b : Blueprint) : List Column :=
  b.columns.filter fun c => !c.change

/-- The columns to modify. -/
def changed (b : Blueprint) : List Column :=
  b.columns.filter fun c => c.change

/-- The column that is numbered automatically: the first new one that can be. -/
def serial? (b : Blueprint) : Option Column :=
  b.added.find? Column.isSerial

end Blueprint

structure SequenceSpec where
  name : String
  startValue : UInt64
  minValue : UInt64
  maxValue : Option UInt64
  incrementBy : UInt64
  nocache : Bool
deriving DecidableEq

/-- A sequence that counts from one. -/
def SequenceSpec.of (name : String) : SequenceSpec :=
  ⟨name, 1, 1, none, 1, false⟩

/-- A trigger that fills a column from a sequence before an insert. -/
structure TriggerSpec where
  name : String
  table : String
  column : String
  sequenceName : String
deriving DecidableEq

/-- A preference through which a full-text index reads several columns. -/
structure Preference where
  name : String
  columns : List String
deriving DecidableEq

end OracleSql
