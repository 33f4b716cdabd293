import OracleSql.Schema.Plan

/-!
# What an accepted blueprint compiles to

`Schema/Plan.lean` puts the statements of a blueprint together out of many compilations, each of
which may refuse.  Here the plan and the statement that creates a table are inverted once: when
they are accepted, and what they then are (`plan_eq_ok`, `createSql_eq_ok`).  The objects that number
a column are never refused, so what they are is given outright (`Numbering.ofColumn`).
-/

namespace OracleSql

open Identifier

theorem Compile.exists_mem_of_mapM {α β : Type} {f : α → Compile β} {xs : List α} {ys : List β}
    (h : (xs.mapM f).result = .ok ys) {x : α} (hx : x ∈ xs) :
    ∃ y ∈ ys, (f x).result = .ok y := by
  induction xs generalizing ys with
  | nil => cases hx
  | cons first rest ih =>
    rw [List.mapM_cons] at h
    obtain ⟨y, hy, h⟩ := Compile.result_bind_eq_ok.mp h
    obtain ⟨others, hothers, h⟩ := Compile.result_bind_eq_ok.mp h
    cases h
    rcases List.mem_cons.mp hx with rfl | hx
    · exact ⟨y, List.mem_cons_self, hy⟩
    · obtain ⟨z, hz, hf⟩ := ih hothers hx
      exact ⟨z, List.mem_cons_of_mem _ hz, hf⟩

@[simp] theorem result_specName (c : Config) (table : String) (kind : IndexKind)
    (spec : IndexSpec) :
    (specName c table kind spec).result = .ok (shorten c.maxLength (specStem c table kind spec)) :=
  result_shortened _ _

/-! ### The objects that number a column -/

namespace Identifier

/-- The name that an object of a column has in the end. -/
def columnObject (c : Config) (table column suffix : String) : String :=
  shorten c.maxLength (objectStem c table column suffix)

@[simp] theorem result_sequenceName (c : Config) (table column : String) :
    (sequenceName c table column).result = .ok (columnObject c table column "seq") :=
  result_shortened _ _

@[simp] theorem result_triggerName (c : Config) (table column : String) :
    (triggerName c table column).result = .ok (columnObject c table column "trg") :=
  result_shortened _ _

end Identifier

/-- **What numbers a column**: a sequence and a trigger named after it. -/
def Numbering.ofColumn (c : Config) (table : String) (column : Column) : Numbering where
  sequence :=
    { SequenceSpec.of (columnObject c table column.name "seq") with
      startValue := column.startValue.getD 1
      nocache := column.nocache }
  trigger := ⟨columnObject c table column.name "trg", table, column.name,
    columnObject c table column.name "seq"⟩

theorem Numbering.result_ofBlueprint (c : Config) (b : Blueprint) :
    (Numbering.ofBlueprint c b).result
      = .ok (b.serial?.map (Numbering.ofColumn c b.name)) := by
  rw [Numbering.ofBlueprint]
  cases b.serial? with
  | none => rfl
  | some column =>
    exact Compile.result_bind_eq_ok.mpr ⟨_, result_sequenceName _ _ _,
      Compile.result_bind_eq_ok.mpr ⟨_, result_triggerName _ _ _, rfl⟩⟩

theorem Numbering.result_dropSql (c : Config) (table column : String) :
    (Numbering.dropSql c table column).result
      = .ok [SequenceSpec.dropSql c (columnObject c table column "seq"),
          TriggerSpec.dropSql c (columnObject c table column "trg")] :=
  Compile.result_bind_eq_ok.mpr ⟨_, result_sequenceName _ _ _,
    Compile.result_bind_eq_ok.mpr ⟨_, result_triggerName _ _ _, rfl⟩⟩

/-! ### The statement that creates a table -/

/-- A primary key as it stands in the statement that creates its table. -/
def IndexSpec.keyConstraint (c : Config) (table : String) (spec : IndexSpec) : String :=
  "constraint " ++ shorten c.maxLength (specStem c table .primary spec) ++ " primary key ( "
    ++ columnList c spec.columns ++ " )"

namespace Blueprint

/-- The statement that creates the table with the given constraints behind its columns. -/
def createText (c : Config) (b : Blueprint) (constraints : List String) : String :=
  "create table " ++ wrapTable c b.name ++ " ( "
    ++ ", ".intercalate (b.added.map (Column.definitionSql c) ++ constraints) ++ " )"

/-- **A table is created with at least one column**, its foreign keys, and behind them the first
primary key of the commands, if they have one. -/
theorem createSql_eq_ok {c : Config} {b : Blueprint} {commands : List SchemaCommand}
    {sql : String} :
    (b.createSql c commands).result = .ok sql ↔
      b.added ≠ [] ∧ ∃ foreign,
        ((foreignKeys commands).mapM (ForeignKey.constraintSql c b.name)).result = .ok foreign ∧
          sql = b.createText c
            (foreign ++ ((primaryKey? commands).map (·.keyConstraint c b.name)).toList) := by
  rw [createSql]
  dsimp only
  constructor
  · intro h
    split at h
    · rw [Compile.result_throw_bind] at h
      cases h
    · next hadded =>
      refine ⟨by simpa using hadded, ?_⟩
      obtain ⟨foreign, hforeign, h⟩ := Compile.result_bind_eq_ok.mp h
      refine ⟨foreign, hforeign, ?_⟩
      cases hkey : primaryKey? commands with
      | none =>
        rw [hkey] at h
        cases h
        delta createText
        rw [← List.append_assoc]
        rfl
      | some spec =>
        rw [hkey] at h
        dsimp only at h
        obtain ⟨name, hname, h⟩ := Compile.result_bind_eq_ok.mp h
        rw [result_specName] at hname
        cases hname
        cases h
        delta createText
        rw [← List.append_assoc]
        rfl
  · rintro ⟨hadded, foreign, hforeign, rfl⟩
    rw [if_neg (by simpa using hadded)]
    refine Compile.result_bind_eq_ok.mpr ⟨foreign, hforeign, ?_⟩
    delta createText
    rw [← List.append_assoc]
    cases hkey : primaryKey? commands with
    | none => rfl
    | some spec => exact Compile.result_bind_eq_ok.mpr ⟨_, result_specName _ _ _ _, rfl⟩

/-! ### The plan -/

/-- **What a plan consists of**: the preferences, the statements of the commands, the comments,
and the sequence and the trigger of the numbered column. -/
theorem plan_eq_ok {c : Config} {b : Blueprint} {statements : List String} :
    (b.plan c).result = .ok statements ↔
      ∃ preferences commands numbering,
        (Preference.ofBlueprint c b).result = .ok preferences ∧
          (b.allCommands.mapM (b.commandSql c)).result = .ok commands ∧
          (Numbering.ofBlueprint c b).result = .ok numbering ∧
          statements = (Preference.createSql? c preferences).toList ++ commands.flatten
            ++ b.commentsSql c ++ (numbering.map (·.createSql c)).getD [] := by
  rw [plan]
  constructor
  · intro h
    obtain ⟨preferences, hpreferences, h⟩ := Compile.result_bind_eq_ok.mp h
    obtain ⟨commands, hcommands, h⟩ := Compile.result_bind_eq_ok.mp h
    obtain ⟨numbering, hnumbering, h⟩ := Compile.result_bind_eq_ok.mp h
    refine ⟨preferences, commands, numbering, hpreferences, hcommands, hnumbering, ?_⟩
    cases numbering <;> cases h <;> rfl
  · rintro ⟨preferences, commands, numbering, hpreferences, hcommands, hnumbering, rfl⟩
    refine Compile.result_bind_eq_ok.mpr ⟨preferences, hpreferences, ?_⟩
    refine Compile.result_bind_eq_ok.mpr ⟨commands, hcommands, ?_⟩
    refine Compile.result_bind_eq_ok.mpr ⟨numbering, hnumbering, ?_⟩
    cases numbering <;> rfl

theorem exists_createSql_mem {c : Config} {b : Blueprint} {statements : List String}
    (hplan : (b.plan c).result = .ok statements) (hcreate : .create ∈ b.commands) :
    ∃ sql ∈ statements, (b.createSql c b.allCommands).result = .ok sql := by
  obtain ⟨_, commands, _, _, hcommands, _, rfl⟩ := plan_eq_ok.mp hplan
  have hall : .create ∈ b.allCommands := by simp [allCommands, hcreate]
  obtain ⟨ofCreate, hmem, h⟩ := Compile.exists_mem_of_mapM hcommands hall
  obtain ⟨sql, hsql, h⟩ := Compile.result_bind_eq_ok.mp h
  cases h
  have hflat : sql ∈ commands.flatten := List.mem_flatten.mpr ⟨_, hmem, by simp⟩
  exact ⟨sql, by simp [hflat], hsql⟩

end Blueprint

end OracleSql
