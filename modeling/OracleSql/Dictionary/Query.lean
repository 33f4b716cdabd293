import OracleSql.Identifier.Basic
import OracleSql.Literal
import OracleSql.Statement

/-!
# Queries of the data dictionary

What the database knows about tables, columns, indexes and foreign keys.  Owners and tables are
compared in upper case, and the columns of a result have quoted names in lower case, so that rows
look the same whatever fetches them.
-/

namespace OracleSql.Dictionary

open Identifier

def ownerAndTable (c : Config) (owner table : String) : List Value :=
  [.text owner, .text (prefixedTable c table)]

/-- The rows of a table in the list of all tables. -/
def tableExists (c : Config) (owner table : String) : Statement :=
  ⟨"select * from all_tables where upper(owner) = upper(?) and upper(table_name) = upper(?)",
    ownerAndTable c owner table, []⟩

/-- The names of the columns of a table. -/
def columnListing (c : Config) (owner table : String) : Statement :=
  ⟨"select column_name as \"column_name\" from all_tab_cols where upper(owner) = upper(?) "
      ++ "and upper(table_name) = upper(?) order by column_id",
    ownerAndTable c owner table, []⟩

/-- The number of columns of a name. -/
def columnExists (c : Config) (owner table column : String) : Statement :=
  ⟨"select count(*) as \"count\" from all_tab_cols where upper(owner) = upper(?) "
      ++ "and upper(table_name) = upper(?) and upper(column_name) = upper(?)",
    ownerAndTable c owner table ++ [.text column], []⟩

def columns (c : Config) (owner table : String) : Statement :=
  ⟨"select t.column_name as \"name\", nvl(t.data_type_mod, t.data_type) as \"type_name\", "
      ++ "t.data_type as \"type\", t.data_length as \"data_length\", "
      ++ "t.char_length as \"char_length\", t.data_precision as \"precision\", "
      ++ "t.data_scale as \"places\", decode(t.nullable, 'Y', 1, 0) as \"nullable\", "
      ++ "t.data_default as \"default\", c.comments as \"comment\" from all_tab_cols t "
      ++ "left join all_col_comments c on t.owner = c.owner and t.table_name = c.table_name "
      ++ "and t.column_name = c.column_name where upper(t.owner) = upper(?) "
      ++ "and upper(t.table_name) = upper(?) and t.hidden_column = 'NO' order by t.column_id",
    ownerAndTable c owner table, []⟩

/-- The indexed columns of a table, one row for each. -/
def indexes (c : Config) (owner table : String) : Statement :=
  ⟨"select i.index_name as \"name\", i.column_name as \"column_name\", a.index_type as \"type\", "
      ++ "decode(a.uniqueness, 'UNIQUE', 1, 0) as \"unique\", "
      ++ "decode(c.constraint_type, 'P', 1, 0) as \"primary\" from all_ind_columns i "
      ++ "join all_indexes a on a.index_name = i.index_name and a.owner = i.index_owner "
      ++ "left join all_constraints c on c.index_name = a.index_name and c.owner = a.owner "
      ++ "and c.constraint_type = 'P' where upper(i.table_owner) = upper(?) "
      ++ "and upper(i.table_name) = upper(?) order by i.index_name, i.column_position",
    ownerAndTable c owner table, []⟩

def foreignKeys (c : Config) (owner table : String) : Statement :=
  ⟨"select kc.constraint_name as \"name\", "
      ++ "listagg(kc.column_name, ',') within group (order by kc.position) as \"columns\", "
      ++ "rc.r_owner as \"foreign_schema\", kcr.table_name as \"foreign_table\", "
      ++ "listagg(kcr.column_name, ',') within group (order by kcr.position) "
      ++ "as \"foreign_columns\", rc.delete_rule as \"on_delete\" from all_cons_columns kc "
      ++ "inner join all_constraints rc on kc.constraint_name = rc.constraint_name "
      ++ "and kc.owner = rc.owner "
      ++ "inner join all_cons_columns kcr on kcr.constraint_name = rc.r_constraint_name "
      ++ "and kcr.owner = rc.r_owner and kcr.position = kc.position "
      ++ "where upper(rc.owner) = upper(?) and upper(kc.table_name) = upper(?) "
      ++ "and rc.constraint_type = 'R' "
      ++ "group by kc.constraint_name, rc.r_owner, kcr.table_name, rc.delete_rule",
    ownerAndTable c owner table, []⟩

def tables (owner : String) : Statement :=
  ⟨"select lower(all_tables.table_name) as \"name\", lower(all_tables.owner) as \"schema\", "
      ++ "sum(user_segments.bytes) as \"size\", all_tab_comments.comments as \"comment\", "
      ++ "(select lower(value) from nls_database_parameters where parameter = 'NLS_SORT') "
      ++ "as \"collation\" from all_tables "
      ++ "join all_tab_comments on all_tab_comments.table_name = all_tables.table_name "
      ++ "and all_tab_comments.owner = all_tables.owner "
      ++ "left join user_segments on user_segments.segment_name = all_tables.table_name "
      ++ "where upper(all_tables.owner) = upper(?) and upper(all_tab_comments.owner) = upper(?) "
      ++ "and all_tables.iot_name is null "
      ++ "group by all_tables.table_name, all_tables.owner, all_tab_comments.comments "
      ++ "order by all_tables.table_name",
    [.text owner, .text owner], []⟩

/-- The block that enables or disables every foreign key of an owner. -/
def toggleForeignKeys (owner : String) (enable : Bool) : String :=
  "begin for s in (select 'alter table ' || c.owner || '.' || c.table_name || ' "
    ++ (if enable then "enable" else "disable")
    ++ " constraint ' || c.constraint_name as statement from all_constraints c "
    ++ "where c.constraint_type = 'R' and upper(c.owner) = upper(" ++ quote owner
    ++ ")) loop execute immediate s.statement; end loop; end;"

/-- The query for the schema of the connection. -/
def currentSchemaSql : String :=
  "select sys_context('userenv', 'current_schema') as \"schema\" from dual"

end OracleSql.Dictionary
