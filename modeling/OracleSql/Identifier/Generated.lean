import OracleSql.Identifier.Basic
import OracleSql.Identifier.Shorten
import OracleSql.Schema.Blueprint

/-!
# Generated names

Names of sequences, triggers, indexes and constraints are put together from table, columns and
kind and brought within the identifier limit.  They depend on nothing else, so that a later
command can derive the same name again.
-/

namespace OracleSql.Identifier

/-- The name of a sequence or trigger before it is shortened: prefixed table, column, suffix. -/
def objectStem (c : Config) (table column suffix : String) : String :=
  prefixedTable c table ++ "_" ++ column ++ "_" ++ suffix

def objectName (c : Config) (table column suffix : String) : Compile String :=
  shortened c.maxLength (objectStem c table column suffix)

/-- The sequence that numbers a column. -/
def sequenceName (c : Config) (table column : String) : Compile String :=
  objectName c table column "seq"

/-- The trigger that fills a column. -/
def triggerName (c : Config) (table column : String) : Compile String :=
  objectName c table column "trg"

/-- The name of an index before it is shortened: prefixed table, columns and kind in lower case,
with underscores for hyphens and dots. -/
def indexStem (c : Config) (table : String) (kind : IndexKind) (columns : List String) : String :=
  let name := Text.lower
    ("_".intercalate ((c.tablePrefix ++ table) :: columns ++ [kind.suffix]))
  String.ofList (name.toList.map fun ch => if ch = '-' ∨ ch = '.' then '_' else ch)

/-- The name of an index or constraint that has none of its own. -/
def indexName (c : Config) (table : String) (kind : IndexKind) (columns : List String) :
    Compile String :=
  shortened c.maxLength (indexStem c table kind columns)

/-- What the name of an index or constraint of a table is shortened from. -/
def specStem (c : Config) (table : String) (kind : IndexKind) (spec : IndexSpec) : String :=
  spec.name.getD (indexStem c (bareTable table) kind spec.columns)

/-- The name of an index or constraint of a table: its own, or a derived one. -/
def specName (c : Config) (table : String) (kind : IndexKind) (spec : IndexSpec) :
    Compile String :=
  shortened c.maxLength (specStem c table kind spec)

end OracleSql.Identifier
