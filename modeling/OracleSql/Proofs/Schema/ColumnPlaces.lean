import OracleSql.Proofs.Schema.CommandTexts

/-!
# The places where columns are defined

A new column is defined in the statement that creates its table, or in one that adds columns to it; a
changed column is defined in a statement of its own that modifies it.  The statements of a plan are
given once more with the columns in them (`Blueprint.columnPlan`), and what a plan has of columns is
counted there.

Three commands lead to such statements, and two of them are implied when the table is not created.
The implied ones are not left out when they are there already, so the columns stand in as many places
as there are commands, implied or not (`Blueprint.columns_emitted_once_iff`).
-/

namespace OracleSql

open Identifier

/-! ### Statements that define columns -/

/-- Whether a statement says what columns are: it creates a table with them, adds them to one, or
modifies one. -/
def DefinesColumns (c : Config) (table sql : String) : Prop :=
  Begins "create table " sql ∨ Begins (alterTable c table ++ " add ( ") sql ∨
    Begins (alterTable c table ++ " modify ") sql

/-- A statement of a plan, with the columns that it defines. -/
inductive ColumnStatement where
  | create (columns : List Column) (constraints : List String)
  | add (columns : List Column)
  | modify (column : Column)
  | other (sql : String)

namespace ColumnStatement

def sql (c : Config) (table : String) : ColumnStatement → String
  | create columns constraints =>
    "create table " ++ wrapTable c table ++ " ( "
      ++ ", ".intercalate (columns.map (Column.definitionSql c) ++ constraints) ++ " )"
  | add columns =>
    alterTable c table ++ " add ( " ++ ", ".intercalate (columns.map (Column.definitionSql c)) ++ " )"
  | modify column => alterTable c table ++ " modify " ++ column.definitionSql c
  | other sql => sql

/-- The columns that a statement defines as new ones. -/
def defined : ColumnStatement → List Column
  | create columns _ | add columns => columns
  | modify _ | other _ => []

/-- The columns that a statement modifies. -/
def modified : ColumnStatement → List Column
  | modify column => [column]
  | create _ _ | add _ | other _ => []

theorem map_sql_other (c : Config) (table : String) (texts : List String) :
    (texts.map other).map (·.sql c table) = texts := by
  rw [List.map_map]
  exact List.map_id texts

theorem flatMap_other {f : ColumnStatement → List Column} (hf : ∀ sql, f (.other sql) = [])
    (texts : List String) : (texts.map other).flatMap f = [] := by
  rw [List.flatMap_map, List.flatMap_eq_nil_iff]
  exact fun sql _ => hf sql

theorem mem_of_other_mem {texts : List String} {sql : String} (h : .other sql ∈ texts.map other) :
    sql ∈ texts := by
  obtain ⟨_, hmem, heq⟩ := List.mem_map.mp h
  cases heq
  exact hmem

end ColumnStatement

namespace SchemaCommand

/-- Whether a command brings the new columns into the table. -/
def definesNew : SchemaCommand → Bool
  | create | add => true
  | _ => false

/-- Whether a command modifies the changed columns. -/
def isChange : SchemaCommand → Bool
  | change => true
  | _ => false

theorem opening_apart_columns (c : Config) (table : String) {command : SchemaCommand}
    (hnew : command.definesNew = false) (hchange : command.isChange = false) :
    Apart (command.opening c table) (alterTable c table ++ " add ( ") ∧
      Apart (command.opening c table) (alterTable c table ++ " modify ") := by
  delta opening Apart alterTable
  simp only [begins_iff]
  cases command with
  | create | add => cases hnew
  | change => cases hchange
  | fulltext spec =>
    dsimp only
    delta FulltextIndex.blockOpening
    cases spec.fulltextIndexes c table with
    | nil => simp
    | cons i rest => simp
  | dropFulltext spec =>
    dsimp only
    by_cases hempty : spec.columns.isEmpty = true
    · simp only [if_pos hempty]
      simp
    · simp only [if_neg hempty]
      simp
  | _ => simp

end SchemaCommand

theorem not_definesColumns_of_begins {c : Config} {table opening sql : String}
    (h : Begins opening sql)
    (hapart : Apart opening "create table " ∧ Apart opening (alterTable c table ++ " add ( ") ∧
      Apart opening (alterTable c table ++ " modify ")) :
    ¬DefinesColumns c table sql := by
  obtain ⟨hcreate, hadd, hmodify⟩ := hapart
  rintro (h' | h' | h')
  · exact hcreate.not_begins h h'
  · exact hadd.not_begins h h'
  · exact hmodify.not_begins h h'

namespace Blueprint

/-! ### The plan with its columns -/

/-- The statements of a command, with the columns in them. -/
def columnStatements (c : Config) (b : Blueprint) : SchemaCommand → List ColumnStatement
  | .create => [.create b.added (b.constraintTexts c)]
  | .add => if b.added.isEmpty then [] else [.add b.added]
  | .change => b.changed.map .modify
  | command => (b.commandTexts c command).map .other

/-- The blueprint's plan, with the columns in it. -/
def columnPlan (c : Config) (b : Blueprint) : List ColumnStatement :=
  (Preference.createSql? c ((multiColumn b.commands).map (·.preference c b.name))).toList.map .other
    ++ b.allCommands.flatMap (b.columnStatements c) ++ (b.commentsSql c).map .other
    ++ (((b.serial?.map (Numbering.ofColumn c b.name)).map (·.createSql c)).getD []).map .other

variable {c : Config} {b : Blueprint}

/-- **The columns are those of the statements**: without them the plan is what it was. -/
theorem sql_columnStatements (command : SchemaCommand) :
    (b.columnStatements c command).map (·.sql c b.name) = b.commandTexts c command := by
  cases command with
  | create =>
    rw [commandTexts_create]
    rfl
  | add =>
    rw [commandTexts_add]
    delta addSql columnStatements
    cases b.added.isEmpty <;> rfl
  | change =>
    rw [commandTexts_change, columnStatements, List.map_map]
    rfl
  | _ => exact ColumnStatement.map_sql_other _ _ _

theorem sql_columnPlan {statements : List String} (h : (b.plan c).result = .ok statements) :
    (b.columnPlan c).map (·.sql c b.name) = statements := by
  rw [plan_eq_commandTexts h, columnPlan]
  simp only [List.map_append, List.map_flatMap, sql_columnStatements,
    ColumnStatement.map_sql_other]

theorem not_definesColumns_of_mem_columnStatements {command : SchemaCommand} {sql : String}
    (h : .other sql ∈ b.columnStatements c command) : ¬DefinesColumns c b.name sql := by
  have hcommand : command.definesNew = false ∧ command.isChange = false ∧
      sql ∈ b.commandTexts c command := by
    rw [← sql_columnStatements]
    cases command with
    | create => simp [columnStatements] at h
    | add =>
      rw [columnStatements] at h
      split at h <;> simp at h
    | change => simp [columnStatements] at h
    | _ => exact ⟨rfl, rfl, List.mem_map.mpr ⟨_, h, rfl⟩⟩
  obtain ⟨hnew, hchange, hmem⟩ := hcommand
  refine not_definesColumns_of_begins (begins_of_mem_commandTexts hmem)
    ⟨SchemaCommand.opening_apart_create c b.name ?_,
      SchemaCommand.opening_apart_columns c b.name hnew hchange⟩
  rintro rfl
  cases hnew

/-- **Nothing else in a plan says what columns are.** -/
theorem not_definesColumns_of_other {sql : String} (h : .other sql ∈ b.columnPlan c) :
    ¬DefinesColumns c b.name sql := by
  rw [columnPlan] at h
  rcases List.mem_append.mp h with h | h
  · rcases List.mem_append.mp h with h | h
    · rcases List.mem_append.mp h with h | h
      · have h := Option.mem_toList.mp (ColumnStatement.mem_of_other_mem h)
        have hbegins := Preference.begins_of_mem_createSql? h
        exact not_definesColumns_of_begins hbegins (by simp [Apart, begins_iff, alterTable])
      · obtain ⟨command, _, h⟩ := List.mem_flatMap.mp h
        exact not_definesColumns_of_mem_columnStatements h
    · rcases begins_of_mem_commentsSql (ColumnStatement.mem_of_other_mem h) with hbegins | hbegins <;>
        exact not_definesColumns_of_begins hbegins (by simp [Apart, begins_iff, alterTable])
  · have h := ColumnStatement.mem_of_other_mem h
    cases hserial : b.serial? with
    | none =>
      rw [hserial] at h
      cases h
    | some column =>
      rw [hserial] at h
      rcases Numbering.begins_of_mem_createSql h with hbegins | hbegins <;>
        exact not_definesColumns_of_begins hbegins (by simp [Apart, begins_iff, alterTable])

/-! ### In how many places -/

theorem flatMap_ite_eq_replicate {α β : Type} (p : α → Bool) (l : List β) (xs : List α) :
    (xs.flatMap fun x => if p x then l else []) = (List.replicate (xs.countP p) l).flatten := by
  induction xs with
  | nil => rfl
  | cons x xs ih =>
    rw [List.flatMap_cons, ih]
    by_cases hx : p x = true
    · rw [if_pos hx, List.countP_cons_of_pos hx, List.replicate_succ, List.flatten_cons]
    · rw [if_neg hx, List.countP_cons_of_neg hx, List.nil_append]

theorem replicate_flatten_perm_iff {α : Type} (n : Nat) (l : List α) :
    (List.replicate n l).flatten.Perm l ↔ l = [] ∨ n = 1 := by
  constructor
  · intro h
    have hlength : n * l.length = l.length := by
      rw [← List.sum_replicate_nat, ← List.map_replicate, ← List.length_flatten, h.length_eq]
    rcases Nat.eq_zero_or_pos l.length with hzero | hpos
    · exact .inl (List.length_eq_zero_iff.mp hzero)
    · refine .inr (Nat.eq_of_mul_eq_mul_right hpos ?_)
      rw [hlength, Nat.one_mul]
  · rintro (rfl | rfl)
    · simp
    · simp

variable (c b)

theorem flatMap_columnPlan {f : ColumnStatement → List Column} (hf : ∀ sql, f (.other sql) = []) :
    (b.columnPlan c).flatMap f
      = b.allCommands.flatMap fun command => (b.columnStatements c command).flatMap f := by
  rw [columnPlan]
  simp only [List.flatMap_append, ColumnStatement.flatMap_other hf, List.nil_append,
    List.append_nil, List.flatMap_assoc]

theorem defined_columnStatements (command : SchemaCommand) :
    (b.columnStatements c command).flatMap (·.defined)
      = if command.definesNew then b.added else [] := by
  cases command with
  | create => exact List.append_nil _
  | add =>
    rw [columnStatements, SchemaCommand.definesNew]
    cases b.added with
    | nil => rfl
    | cons column rest => exact List.append_nil _
  | change =>
    rw [columnStatements, List.flatMap_map]
    exact List.flatMap_eq_nil_iff.mpr fun _ _ => rfl
  | _ => exact ColumnStatement.flatMap_other (fun _ => rfl) _

theorem modified_columnStatements (command : SchemaCommand) :
    (b.columnStatements c command).flatMap (·.modified)
      = if command.isChange then b.changed else [] := by
  cases command with
  | create => rfl
  | add =>
    rw [columnStatements]
    cases b.added <;> rfl
  | change =>
    rw [columnStatements, List.flatMap_map]
    exact List.flatMap_singleton' b.changed
  | _ => exact ColumnStatement.flatMap_other (fun _ => rfl) _

/-- Flags of columns lead to keys and indexes only. -/
theorem countP_flagCommands {p : SchemaCommand → Bool}
    (hp : ∀ spec, p (.primary spec) = false ∧ p (.unique spec) = false ∧ p (.index spec) = false)
    (hasPrimary : Bool) (columns : List Column) :
    (flagCommands hasPrimary columns).countP p = 0 := by
  induction columns generalizing hasPrimary with
  | nil => rfl
  | cons column rest ih =>
    have hsingle (flag : Bool) {command : SchemaCommand} (hcommand : p command = false) :
        (if flag then [command] else []).countP p = 0 := by
      cases flag <;> simp [hcommand]
    obtain ⟨hprimary, hunique, hindex⟩ := hp ⟨none, [column.name]⟩
    rw [flagCommands, List.countP_append, List.countP_append, List.countP_append, ih,
      hsingle _ hprimary, hsingle _ hunique, hsingle _ hindex]

/-- Columns that one kind of commands emits, of which there is an implied one where the table is not
created, are emitted once when there is no other command of the kind there, and one where the table is
created. -/
theorem perm_flatMap_iff {f : ColumnStatement → List Column} {p : SchemaCommand → Bool}
    {columns : List Column} (hother : ∀ sql, f (.other sql) = [])
    (hemits : ∀ command, (b.columnStatements c command).flatMap f = if p command then columns else [])
    (hflags : ∀ spec, p (.primary spec) = false ∧ p (.unique spec) = false ∧ p (.index spec) = false)
    (himplied : columns ≠ [] → b.columnCommands.countP p = if b.isCreating then 0 else 1) :
    ((b.columnPlan c).flatMap f).Perm columns ↔
      columns = [] ∨ b.commands.countP p = if b.isCreating then 1 else 0 := by
  rw [b.flatMap_columnPlan c hother]
  simp only [hemits]
  rw [flatMap_ite_eq_replicate, replicate_flatten_perm_iff]
  refine or_congr_right' fun hcolumns => ?_
  rw [allCommands, List.countP_append, List.countP_append, himplied hcolumns,
    countP_flagCommands hflags]
  split <;> omega

theorem perm_defined_iff :
    ((b.columnPlan c).flatMap (·.defined)).Perm b.added ↔
      b.added = [] ∨ b.commands.countP (·.definesNew) = if b.isCreating then 1 else 0 := by
  refine b.perm_flatMap_iff c (fun _ => rfl) (b.defined_columnStatements c)
    (fun _ => ⟨rfl, rfl, rfl⟩) fun hadded => ?_
  have hadded : ¬b.added.isEmpty = true := by simpa using hadded
  rw [columnCommands, if_neg hadded]
  cases b.isCreating <;> cases b.changed <;> rfl

theorem perm_modified_iff :
    ((b.columnPlan c).flatMap (·.modified)).Perm b.changed ↔
      b.changed = [] ∨ b.commands.countP (·.isChange) = if b.isCreating then 1 else 0 := by
  refine b.perm_flatMap_iff c (fun _ => rfl) (b.modified_columnStatements c)
    (fun _ => ⟨rfl, rfl, rfl⟩) fun hchanged => ?_
  have hchanged : ¬b.changed.isEmpty = true := by simpa using hchanged
  rw [columnCommands, if_neg hchanged]
  cases b.isCreating <;> cases b.added <;> rfl

/-- **Each column is emitted once**: each new one is defined in one place, and each changed one is
modified in one. -/
structure EmitsOnce (plan : List ColumnStatement) : Prop where
  defined : (plan.flatMap (·.defined)).Perm b.added
  modified : (plan.flatMap (·.modified)).Perm b.changed

/-- **When each column of a blueprint is emitted once.**  The statements of an accepted blueprint are
given with the columns that they define, and the others say nothing of columns.  Then each new column
is defined once exactly when the blueprint creates its table and no other command brings the new
columns, or does not create it and leaves it to the implied command; and each changed column is
modified once exactly when there is one command to do so where the table is created, and none but the
implied one where it is not. -/
theorem columns_emitted_once_iff (statements : List String)
    (h : (b.plan c).result = .ok statements) :
    (b.columnPlan c).map (·.sql c b.name) = statements ∧
      (∀ sql, .other sql ∈ b.columnPlan c → ¬DefinesColumns c b.name sql) ∧
      (b.EmitsOnce (b.columnPlan c) ↔
        (b.added = [] ∨ b.commands.countP (·.definesNew) = if b.isCreating then 1 else 0) ∧
          (b.changed = [] ∨ b.commands.countP (·.isChange) = if b.isCreating then 1 else 0)) := by
  refine ⟨sql_columnPlan h, fun sql => not_definesColumns_of_other, ?_⟩
  rw [← b.perm_defined_iff c, ← b.perm_modified_iff c]
  exact ⟨fun hemits => ⟨hemits.defined, hemits.modified⟩, fun hemits => ⟨hemits.1, hemits.2⟩⟩

/-- A table that is created with a new column, and one of whose columns is modified. -/
theorem columns_emitted_once_create_change :
    let b : Blueprint :=
      { of "users" with
        columns := [Column.of "id" .integer, { Column.of "email" .string with change := true }]
        commands := [.create, .change] }
    ∃ statements, (b.plan .standard).result = .ok statements ∧
      (b.columnPlan .standard).map (·.sql .standard "users") = statements ∧
      b.EmitsOnce (b.columnPlan .standard) := by
  intro b
  have hisOk : (b.plan .standard).result.isOk = true := by decide +kernel
  cases hplan : (b.plan .standard).result with
  | error e =>
    rw [hplan] at hisOk
    cases hisOk
  | ok statements =>
    obtain ⟨hsql, -, hiff⟩ := columns_emitted_once_iff .standard b statements hplan
    exact ⟨statements, rfl, hsql, hiff.mpr ⟨.inr (by decide), .inr (by decide)⟩⟩

/-- **The implied command does not look at the explicit one**: a blueprint that adds its column to a
table that exists, and says so, adds it twice. -/
theorem columns_emitted_twice :
    let b : Blueprint :=
      { of "users" with
        columns := [{ Column.of "nickname" .string with length := some 50, nullable := true }]
        commands := [.add] }
    (b.plan .standard).result.toOption = some [
      "alter table users add ( nickname varchar2(50) null )",
      "alter table users add ( nickname varchar2(50) null )"] ∧
    ¬b.EmitsOnce (b.columnPlan .standard) := by
  intro b
  refine ⟨by decide +kernel, fun hemits => ?_⟩
  cases hemits.defined.length_eq

end Blueprint

end OracleSql
