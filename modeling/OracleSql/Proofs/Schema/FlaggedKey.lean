import Mathlib.Data.List.Find
import OracleSql.Proofs.Schema.CommandTexts
import OracleSql.Proofs.Schema.NumberedKey

/-!
# The primary key that flags ask for

New columns may be flagged as the primary key, and together the flags ask for one key: the flagged
columns, or the numbered column where none is flagged (`Blueprint.HonoursFlags`).  The key of a table
that is created is less than that.  It is one column, the first that is flagged or numbered, and from
there on no column is looked at for the key any more.

So the flags are honoured exactly when no flagged column is left out by this
(`Blueprint.flags_honoured_iff`).  One that stands behind the numbered column is left out
(`Blueprint.flag_behind_numbered`).
-/

namespace OracleSql

namespace Blueprint

variable {b : Blueprint}

/-- The new columns that are flagged as the primary key. -/
def flagged (b : Blueprint) : List Column :=
  b.added.filter (·.primary)

/-- **The key is the one that the flags ask for**: exactly the flagged columns, or where there is none
the numbered column, or no key where no column is numbered either. -/
structure HonoursFlags (b : Blueprint) (key? : Option IndexSpec) : Prop where
  flagged : b.flagged ≠ [] → ∃ key, key? = some key ∧
    ∀ name, name ∈ key.columns ↔ ∃ column ∈ b.flagged, column.name = name
  unflagged : b.flagged = [] → key?.map (·.columns) = b.serial?.map fun column => [column.name]

/-! ### The key when no command declares one -/

theorem primaryKey?_eq_none {commands : List SchemaCommand}
    (h : ∀ spec, .primary spec ∉ commands) : primaryKey? commands = none := by
  rw [primaryKey?, List.findSome?_eq_none_iff]
  intro command hcommand
  cases command with
  | primary spec => exact absurd hcommand (h spec)
  | _ => rfl

/-- The key is the column that is flagged or numbered first. -/
def impliedSpec? (b : Blueprint) : Option IndexSpec :=
  b.impliedKey?.map fun column => ⟨none, [column.name]⟩

theorem primaryKey?_of_undeclared (h : ∀ spec, .primary spec ∉ b.commands) :
    primaryKey? b.allCommands = b.impliedSpec? := by
  rw [primaryKey?_allCommands, primaryKey?_eq_none h, Option.none_or, impliedSpec?]

/-- Without flags the key is the numbered column. -/
theorem impliedKey?_of_unflagged (h : b.flagged = []) : b.impliedKey? = b.serial? := by
  rw [flagged, List.filter_eq_nil_iff] at h
  rw [impliedKey?, serial?]
  refine List.find?_congr fun column hcolumn => ?_
  rw [Bool.eq_false_iff.mpr (h column hcolumn), Bool.false_or]

theorem exists_impliedKey?_of_flagged (h : b.flagged ≠ []) :
    ∃ first, b.impliedKey? = some first := by
  obtain ⟨column, hcolumn⟩ := List.exists_mem_of_ne_nil _ h
  rw [flagged, List.mem_filter] at hcolumn
  refine Option.isSome_iff_exists.mp (List.find?_isSome.mpr ⟨column, hcolumn.1, ?_⟩)
  rw [hcolumn.2, Bool.true_or]

/-- **The key is the one that the flags ask for exactly when it leaves no flagged column out.** -/
theorem honoursFlags_impliedSpec?_iff :
    b.HonoursFlags b.impliedSpec? ↔
      ∀ first, b.impliedKey? = some first → ∀ column ∈ b.flagged, column.name = first.name := by
  constructor
  · intro hhonours first hfirst column hcolumn
    obtain ⟨key, hkey, hcolumns⟩ := hhonours.flagged (List.ne_nil_of_mem hcolumn)
    rw [impliedSpec?, hfirst] at hkey
    cases hkey
    exact List.mem_singleton.mp ((hcolumns column.name).mpr ⟨column, hcolumn, rfl⟩)
  · intro hall
    constructor
    · intro hflagged
      obtain ⟨first, hfirst⟩ := exists_impliedKey?_of_flagged hflagged
      have hnames := hall first hfirst
      refine ⟨⟨none, [first.name]⟩, by rw [impliedSpec?, hfirst, Option.map_some], fun name => ?_⟩
      rw [List.mem_singleton]
      constructor
      · rintro rfl
        obtain ⟨column, hcolumn⟩ := List.exists_mem_of_ne_nil _ hflagged
        exact ⟨column, hcolumn, hnames column hcolumn⟩
      · rintro ⟨column, hcolumn, rfl⟩
        exact hnames column hcolumn
    · intro hunflagged
      rw [impliedSpec?, impliedKey?_of_unflagged hunflagged, Option.map_map]
      rfl

/-! ### The statement that creates the table -/

variable {c : Config}

theorem createsTable_createText (constraints : List String) :
    CreatesTable (b.createText c constraints) := by
  delta createText
  exact (((begins_append _ _).append _).append _).append _

/-- A plan creates its table by one text, however often. -/
theorem eq_createText_of_createsTable {statements : List String}
    (hplan : (b.plan c).result = .ok statements) {sql : String} (hsql : sql ∈ statements)
    (hcreates : CreatesTable sql) : sql = b.createText c (b.constraintTexts c) := by
  rw [plan_eq_commandTexts hplan, List.mem_append, List.mem_append, List.mem_append] at hsql
  rcases hsql with ((hsql | hsql) | hsql) | hsql
  · exact absurd hcreates
      (Preference.not_createsTable_of_mem_createSql? (Option.mem_toList.mp hsql))
  · obtain ⟨command, -, hsql⟩ := List.mem_flatMap.mp hsql
    by_cases hcommand : command = .create
    · rw [hcommand, commandTexts_create, List.mem_singleton] at hsql
      exact hsql
    · exact absurd hcreates (not_createsTable_of_mem_commandTexts hcommand sql hsql)
  · exact absurd hcreates (not_createsTable_of_mem_commentsSql sql hsql)
  · exact absurd hcreates (not_createsTable_of_mem_numbering sql hsql)

/-- **When the flags of columns are honoured.**  A blueprint creates its table and leaves the primary
key to its columns.  Its plan then creates the table, with the foreign keys and behind them with the
first new column that is flagged or numbered as the key, if there is one.  This is the key that the
flags ask for exactly when every flagged column is that first one. -/
theorem flags_honoured_iff (c : Config) (b : Blueprint) (statements : List String)
    (hcreate : .create ∈ b.commands) (hundeclared : ∀ spec, .primary spec ∉ b.commands)
    (hplan : (b.plan c).result = .ok statements) :
    ∃ foreign key?,
      ((foreignKeys b.allCommands).mapM (ForeignKey.constraintSql c b.name)).result = .ok foreign ∧
      (∃ sql ∈ statements, CreatesTable sql) ∧
      (∀ sql ∈ statements, CreatesTable sql →
        sql = b.createText c (foreign ++ (key?.map (·.keyConstraint c b.name)).toList)) ∧
      key? = b.impliedKey?.map (fun column => ⟨none, [column.name]⟩) ∧
      (b.HonoursFlags key? ↔
        ∀ first, b.impliedKey? = some first → ∀ column ∈ b.flagged, column.name = first.name) := by
  obtain ⟨created, hmem, hcreated⟩ := exists_createSql_mem hplan hcreate
  obtain ⟨-, foreign, hforeign, htext⟩ := createSql_eq_ok.mp hcreated
  rw [primaryKey?_of_undeclared hundeclared] at htext
  have hcreates : CreatesTable created := htext ▸ createsTable_createText _
  refine ⟨foreign, b.impliedSpec?, hforeign, ⟨created, hmem, hcreates⟩, ?_, rfl,
    honoursFlags_impliedSpec?_iff⟩
  intro sql hsql hsqlCreates
  rw [eq_createText_of_createsTable hplan hsql hsqlCreates, ← htext,
    eq_createText_of_createsTable hplan hmem hcreates]

/-- A flagged column that stands before the numbered one is the key. -/
theorem flags_honoured_code :
    let b : Blueprint :=
      { of "orders" with
        columns := [{ Column.of "code" .string with primary := true },
          { Column.of "id" .integer with autoIncrement := true }]
        commands := [.create] }
    ∃ statements, (b.plan .standard).result = .ok statements ∧ ∃ foreign key?,
      (∀ sql ∈ statements, CreatesTable sql →
        sql = b.createText .standard
          (foreign ++ (key?.map (·.keyConstraint .standard b.name)).toList)) ∧
      b.HonoursFlags key? := by
  intro b
  have hisOk : (b.plan .standard).result.isOk = true := by decide +kernel
  have hflagged : b.flagged = [{ Column.of "code" .string with primary := true }] := by decide
  cases hplan : (b.plan .standard).result with
  | error e =>
    rw [hplan] at hisOk
    cases hisOk
  | ok statements =>
    obtain ⟨foreign, key?, -, -, htext, -, hiff⟩ :=
      flags_honoured_iff .standard b statements (by decide) (by simp [b]) hplan
    refine ⟨statements, rfl, foreign, key?, htext, hiff.mpr ?_⟩
    intro first hfirst column hcolumn
    cases hfirst
    rw [hflagged, List.mem_singleton] at hcolumn
    rw [hcolumn]

/-- **A flag behind the numbered column is lost**: `code` is flagged, and the key is `id`. -/
theorem flag_behind_numbered :
    let b : Blueprint :=
      { of "orders" with
        columns := [{ Column.of "id" .integer with autoIncrement := true },
          { Column.of "code" .string with primary := true }]
        commands := [.create] }
    (b.plan .standard).result.toOption = some [
      "create table orders ( id number(10,0) not null, code varchar2(255) not null, "
        ++ "constraint orders_id_pk primary key ( id ) )",
      "create sequence orders_id_seq minvalue 1 start with 1 increment by 1",
      "create trigger orders_id_trg before insert on orders for each row begin "
        ++ "if :new.id is null then select orders_id_seq.nextval into :new.id from dual; "
        ++ "end if; end;"] ∧
    primaryKey? b.allCommands = some ⟨none, ["id"]⟩ ∧ ¬b.HonoursFlags (some ⟨none, ["id"]⟩) := by
  intro b
  refine ⟨by decide +kernel, by decide, fun hhonours => ?_⟩
  have hflagged : b.flagged = [{ Column.of "code" .string with primary := true }] := by decide
  obtain ⟨key, hkey, hcolumns⟩ := hhonours.flagged (by rw [hflagged]; exact List.cons_ne_nil _ _)
  cases hkey
  obtain ⟨column, hcolumn, hname⟩ := (hcolumns "id").mp List.mem_cons_self
  rw [hflagged, List.mem_singleton] at hcolumn
  rw [hcolumn] at hname
  exact absurd hname (by decide)

end Blueprint

end OracleSql
