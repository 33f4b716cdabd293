import OracleSql.Proofs.Schema.MarkedPlan

/-!
# The statements of a command

Each command of a blueprint has its statements, which depend on nothing but the configuration and the
blueprint (`Blueprint.commandTexts`), and a plan that is accepted consists of them, between the
preferences and the comments (`Blueprint.plan_eq_commandTexts`).  What a statement does shows in how
it begins, and how it begins is known from the command (`SchemaCommand.opening`); so statements are told
apart by their openings, without a look at the names in them.
-/

namespace OracleSql

open Identifier MarkedSql

/-! ### How a statement begins -/

/-- Whether a statement begins with a text. -/
def Begins (start sql : String) : Prop :=
  ∃ rest, sql = start ++ rest

theorem begins_append (start rest : String) : Begins start (start ++ rest) := ⟨rest, rfl⟩

theorem begins_iff {start sql : String} : Begins start sql ↔ start.toList <+: sql.toList := by
  constructor
  · rintro ⟨rest, rfl⟩
    rw [String.toList_append]
    exact List.prefix_append _ _
  · rintro ⟨rest, hrest⟩
    refine ⟨String.ofList rest, String.toList_inj.mp ?_⟩
    rw [String.toList_append, String.toList_ofList, hrest]

theorem Begins.comparable {start start' sql : String} (h : Begins start sql)
    (h' : Begins start' sql) : Begins start start' ∨ Begins start' start := by
  rw [begins_iff] at h h'
  rw [begins_iff, begins_iff]
  exact List.prefix_or_prefix_of_prefix h h'

/-- Two openings that no statement has both. -/
def Apart (start start' : String) : Prop :=
  ¬Begins start start' ∧ ¬Begins start' start

theorem Apart.not_begins {start start' sql : String} (h : Apart start start')
    (hsql : Begins start sql) : ¬Begins start' sql :=
  fun hsql' => (hsql.comparable hsql').elim h.1 h.2

theorem Begins.trans {start start' sql : String} (h : Begins start start') (h' : Begins start' sql) :
    Begins start sql := by
  obtain ⟨rest, rfl⟩ := h
  obtain ⟨rest', rfl⟩ := h'
  exact ⟨rest ++ rest', String.append_assoc ..⟩

theorem Begins.append {start sql : String} (h : Begins start sql) (rest : String) :
    Begins start (sql ++ rest) :=
  h.trans (begins_append _ _)

theorem Begins.after {start sql : String} (h : Begins start sql) (before : String) :
    Begins (before ++ start) (before ++ sql) := by
  obtain ⟨rest, rfl⟩ := h
  exact ⟨rest, (String.append_assoc ..).symm⟩

theorem Begins.of_eq {start start' sql : String} (h : start = start') (h' : Begins start' sql) :
    Begins start sql :=
  h ▸ h'

/-! ### Full-text indexes that are dropped -/

/-- The block that drops the full-text indexes on columns of a table. -/
def IndexSpec.dropFulltextBlock (c : Config) (table : String) (spec : IndexSpec) : String :=
  "begin for idx_rec in (select idx_name from ctx_user_indexes where idx_table = "
    ++ upperLiteral (prefixedTable c table) ++ " and idx_text_name in ("
    ++ ", ".intercalate (spec.columns.map upperLiteral)
    ++ ")) loop execute immediate 'drop index ' || idx_rec.idx_name; end loop; end;"

theorem IndexSpec.result_dropFulltext (c : Config) (table : String) {spec : IndexSpec}
    (h : ¬spec.columns.isEmpty = true) :
    (spec.dropFulltext c table).result = .ok (spec.dropFulltextBlock c table) := by
  delta IndexSpec.dropFulltext
  rw [if_neg h]
  rfl

namespace Blueprint

/-! ### The statements of a command -/

/-- The constraints in the statement that creates the table: all foreign keys, then the first primary
key. -/
def constraintTexts (c : Config) (b : Blueprint) : List String :=
  (foreignKeys b.allCommands).map (fun key => text (key.marked c b.name))
    ++ (primaryKey? b.allCommands).toList.map (·.keyConstraint c b.name)

def commandTexts (c : Config) (b : Blueprint) (command : SchemaCommand) : List String :=
  (b.markedCommand c command).map text

variable (c : Config) (b : Blueprint)

theorem commandTexts_create : b.commandTexts c .create = [b.createText c (b.constraintTexts c)] := by
  rw [commandTexts, markedCommand, List.map_singleton]
  delta markedCreate createText constraintTexts
  simp [Function.comp_def, String.append_assoc, IndexSpec.text_markedKey]

theorem commandTexts_add : b.commandTexts c .add = b.addSql c := by
  have hplain : b.markedCommand c .add = (b.addSql c).map plain := rfl
  rw [commandTexts, hplain, List.map_map]
  simp [Function.comp_def]

theorem commandTexts_change :
    b.commandTexts c .change
      = b.changed.map fun column => alterTable c b.name ++ " modify " ++ column.definitionSql c := by
  rw [commandTexts, markedCommand, unnamed, commandSql]
  delta changeSql
  by_cases hchanged : b.changed = []
  · simp [hchanged]
  · simp [hchanged, Function.comp_def]

/-- **What a plan consists of**: the preferences, the statements of each command, the comments, and
the sequence and the trigger of the numbered column. -/
theorem plan_eq_commandTexts {c : Config} {b : Blueprint} {statements : List String}
    (h : (b.plan c).result = .ok statements) :
    statements = (Preference.createSql? c ((multiColumn b.commands).map (·.preference c b.name))).toList
      ++ b.allCommands.flatMap (b.commandTexts c) ++ b.commentsSql c
      ++ ((b.serial?.map (Numbering.ofColumn c b.name)).map (·.createSql c)).getD [] := by
  rw [plan_eq_markedPlan h, markedPlan, ← Preference.text_marked?]
  simp only [List.map_append, List.map_flatMap, List.map_map]
  congr 1
  · congr 1
    · congr 1
      cases Preference.marked? c ((multiColumn b.commands).map (·.preference c b.name)) <;> rfl
    · simp [Function.comp_def]
  · cases b.serial? with
    | none => rfl
    | some column => exact Numbering.text_marked c _

end Blueprint

/-! ### How the statements of a command begin -/

/-- How the block that creates full-text indexes begins. -/
def FulltextIndex.blockOpening (c : Config) (table : String) : List FulltextIndex → String
  | [] => "begin  end;"
  | i :: _ => "begin execute immediate 'create index " ++ i.name ++ " on " ++ wrapTable c table

def SchemaCommand.opening (c : Config) (table : String) : SchemaCommand → String
  | create => "create table "
  | add => alterTable c table ++ " add ( "
  | change => alterTable c table ++ " modify "
  | drop => "drop table "
  | dropIfExists => "begin execute immediate 'drop table "
  | dropColumns _ => alterTable c table ++ " drop ( "
  | rename _ => alterTable c table ++ " rename to "
  | renameColumn _ _ => alterTable c table ++ " rename column "
  | primary _ | unique _ | foreign _ => alterTable c table ++ " add constraint "
  | dropPrimary _ | dropUnique _ | dropForeign _ => alterTable c table ++ " drop constraint "
  | index spec => "create index " ++ spec.objectName c table .index ++ " on " ++ wrapTable c table
  | dropIndex _ => "drop index "
  | fulltext spec => FulltextIndex.blockOpening c table (spec.fulltextIndexes c table)
  | dropFulltext spec =>
    if spec.columns.isEmpty then "drop index "
    else "begin for idx_rec in (select idx_name from ctx_user_indexes where idx_table = "

/-- Only the command to create a table has statements that begin so. -/
theorem SchemaCommand.opening_apart_create (c : Config) (table : String) {command : SchemaCommand}
    (h : command ≠ .create) : Apart (command.opening c table) "create table " := by
  -- not by its equations, which would compare all the texts in it
  delta opening Apart alterTable
  simp only [begins_iff]
  cases command with
  | create => exact absurd rfl h
  | fulltext spec =>
    dsimp only
    delta FulltextIndex.blockOpening
    cases spec.fulltextIndexes c table with
    | nil => simp
    | cons i rest => simp
  | dropFulltext spec =>
    dsimp only
    by_cases hempty : spec.columns.isEmpty = true
    · simp only [if_pos hempty]
      simp
    · simp only [if_neg hempty]
      simp
  | _ => simp

namespace Blueprint

variable (c : Config) (b : Blueprint)

theorem commandTexts_of_unnamed {c : Config} {b : Blueprint} {command : SchemaCommand}
    {texts : List String} (hunnamed : b.markedCommand c command = b.unnamed c command)
    (htexts : (b.commandSql c command).result = .ok texts) : b.commandTexts c command = texts := by
  rw [commandTexts, hunnamed, unnamed, htexts, List.map_map]
  simp [Function.comp_def]

theorem eq_of_mem_commandTexts {c : Config} {b : Blueprint} {command : SchemaCommand} {sql : String}
    {m : MarkedSql} (hmarked : b.markedCommand c command = [m]) (h : sql ∈ b.commandTexts c command) :
    sql = text m := by
  rw [commandTexts, hmarked, List.map_singleton, List.mem_singleton] at h
  exact h

theorem begins_dropTableIfExistsSql (table : String) :
    Begins "begin execute immediate 'drop table " (dropTableIfExistsSql c table) := by
  have hdrop : "begin execute immediate 'drop table " = "begin execute immediate '" ++ "drop table " :=
    rfl
  exact .of_eq hdrop (((begins_append _ _).after _).append _)

theorem begins_markedIndex (spec : IndexSpec) :
    Begins ("create index " ++ spec.objectName c b.name .index ++ " on " ++ wrapTable c b.name)
      (text (b.markedIndex c spec)) := by
  refine ⟨" ( " ++ columnList c spec.columns ++ " )", ?_⟩
  rw [markedIndex]
  simp [String.append_assoc]

theorem begins_joined (separator : String) {start : String} {m : MarkedSql} (ms : List MarkedSql)
    (h : Begins start (text m)) : Begins start (text (joined separator (m :: ms))) := by
  cases ms with
  | nil => exact h
  | cons m' ms =>
    have hjoined : joined separator (m :: m' :: ms)
        = m ++ .text separator :: joined separator (m' :: ms) := rfl
    rw [hjoined, text_append]
    exact h.append _

theorem begins_fulltextIndex (table : String) (i : FulltextIndex) :
    Begins ("execute immediate '" ++ ("create index " ++ i.name ++ " on " ++ wrapTable c table))
      (text (i.marked c table)) := by
  rw [FulltextIndex.text_marked]
  delta FulltextIndex.sql
  exact ((((((begins_append _ _).append _).append _).append _).append _).after _).append _

theorem begins_markedAddForeign (key : ForeignKey) :
    Begins (alterTable c b.name ++ " add constraint ") (text (b.markedAddForeign c key)) := by
  have hadd : " add constraint " = " add " ++ "constraint " := rfl
  have hopening := (congrArg (alterTable c b.name ++ ·) hadd).trans (String.append_assoc ..).symm
  refine .of_eq hopening ?_
  rw [markedAddForeign, text_cons_text]
  delta ForeignKey.marked
  rw [text_cons_text]
  exact (begins_append _ _).after _

theorem begins_markedFulltext (spec : IndexSpec) :
    Begins (FulltextIndex.blockOpening c b.name (spec.fulltextIndexes c b.name))
      (text (b.markedFulltext c spec)) := by
  rw [markedFulltext]
  cases spec.fulltextIndexes c b.name with
  | nil => exact ⟨"", rfl⟩
  | cons i rest =>
    have hblock : "begin execute immediate 'create index "
        = "begin " ++ ("execute immediate '" ++ "create index ") := rfl
    have hopening : "begin execute immediate 'create index " ++ i.name ++ " on " ++ wrapTable c b.name
        = "begin " ++ ("execute immediate '"
          ++ ("create index " ++ i.name ++ " on " ++ wrapTable c b.name)) := by
      simp only [hblock, String.append_assoc]
    refine .of_eq hopening ?_
    rw [text_append, text_cons_text]
    exact ((begins_joined " " _ (begins_fulltextIndex c b.name i)).after _).append _

/-- **Every statement of a command begins as the command says.** -/
theorem begins_of_mem_commandTexts {c : Config} {b : Blueprint} {command : SchemaCommand}
    {sql : String} (h : sql ∈ b.commandTexts c command) :
    Begins (command.opening c b.name) sql := by
  cases command with
  | create =>
    rw [commandTexts_create, List.mem_singleton] at h
    rw [h]
    exact (((begins_append _ _).append _).append _).append _
  | add =>
    rw [commandTexts_add] at h
    delta addSql at h
    split at h
    · cases h
    · rw [List.mem_singleton] at h
      rw [h]
      exact (begins_append _ _).append _
  | change =>
    rw [commandTexts_change, List.mem_map] at h
    obtain ⟨column, _, rfl⟩ := h
    exact begins_append _ _
  | drop =>
    have htexts : b.commandTexts c .drop = [dropTableSql c b.name] :=
      commandTexts_of_unnamed (by rw [markedCommand]) (by rw [commandSql]; rfl)
    rw [htexts, List.mem_singleton] at h
    exact ⟨_, h⟩
  | dropIfExists =>
    have htexts : b.commandTexts c .dropIfExists = [dropTableIfExistsSql c b.name] :=
      commandTexts_of_unnamed (by rw [markedCommand]) (by rw [commandSql]; rfl)
    rw [htexts, List.mem_singleton] at h
    rw [h]
    exact begins_dropTableIfExistsSql c b.name
  | dropColumns columns =>
    have htexts : b.commandTexts c (.dropColumns columns) = [b.dropColumnsSql c columns] :=
      commandTexts_of_unnamed (by rw [markedCommand]) (by rw [commandSql]; rfl)
    rw [htexts, List.mem_singleton] at h
    rw [h]
    exact (begins_append _ _).append _
  | rename name =>
    have htexts : b.commandTexts c (.rename name) = [b.renameSql c name] :=
      commandTexts_of_unnamed (by rw [markedCommand]) (by rw [commandSql]; rfl)
    rw [htexts, List.mem_singleton] at h
    rw [h]
    exact begins_append _ _
  | renameColumn old new =>
    have htexts : b.commandTexts c (.renameColumn old new) = [b.renameColumnSql c old new] :=
      commandTexts_of_unnamed (by rw [markedCommand]) (by rw [commandSql]; rfl)
    rw [htexts, List.mem_singleton] at h
    rw [h]
    exact ((begins_append _ _).append _).append _
  | primary spec =>
    rw [commandTexts, markedCommand] at h
    split at h
    · cases h
    · rw [List.map_singleton, List.mem_singleton] at h
      rw [h, markedAdd, text_cons_text]
      exact begins_append _ _
  | foreign key =>
    rw [commandTexts, markedCommand] at h
    split at h
    · cases h
    · rw [List.map_singleton, List.mem_singleton] at h
      rw [h]
      exact begins_markedAddForeign c b key
  | unique spec =>
    rw [eq_of_mem_commandTexts rfl h, markedAdd, text_cons_text]
    exact begins_append _ _
  | index spec =>
    rw [eq_of_mem_commandTexts rfl h]
    exact begins_markedIndex c b spec
  | fulltext spec =>
    rw [eq_of_mem_commandTexts rfl h]
    exact begins_markedFulltext c b spec
  | dropPrimary spec | dropUnique spec | dropForeign spec =>
    rw [eq_of_mem_commandTexts rfl h, markedDropConstraint, text_cons_text]
    exact begins_append _ _
  | dropIndex spec =>
    rw [eq_of_mem_commandTexts rfl h, markedDropIndex, text_cons_text]
    exact begins_append _ _
  | dropFulltext spec =>
    by_cases hempty : spec.columns.isEmpty = true
    · have hmarked : b.markedCommand c (.dropFulltext spec)
          = [b.markedDropIndex c .fulltext spec] := by
        rw [markedCommand, if_pos hempty]
      rw [eq_of_mem_commandTexts hmarked h, markedDropIndex, text_cons_text]
      exact .of_eq (if_pos hempty) (begins_append _ _)
    · have htexts : b.commandTexts c (.dropFulltext spec) = [spec.dropFulltextBlock c b.name] := by
        refine commandTexts_of_unnamed (by rw [markedCommand, if_neg hempty]) ?_
        exact Compile.result_bind_eq_ok.mpr ⟨_, IndexSpec.result_dropFulltext c b.name hempty, rfl⟩
      rw [htexts, List.mem_singleton] at h
      rw [h]
      exact .of_eq (if_neg hempty) ((((begins_append _ _).append _).append _).append _)

/-! ### How the other statements of a plan begin -/

theorem begins_of_mem_commentsSql {c : Config} {b : Blueprint} {sql : String}
    (h : sql ∈ b.commentsSql c) :
    Begins ("comment on table " ++ wrapTable c b.name) sql ∨
      Begins ("comment on column " ++ wrapTable c b.name) sql := by
  rcases List.mem_append.mp h with h | h
  · obtain ⟨text, _, rfl⟩ := List.mem_map.mp h
    exact .inl ((begins_append _ _).append _)
  · obtain ⟨⟨column, text⟩, _, rfl⟩ := List.mem_map.mp h
    exact .inr ((((begins_append _ _).append _).append _).append _)

end Blueprint

theorem Preference.begins_of_mem_createSql? {c : Config} {preferences : List Preference}
    {sql : String} (h : sql ∈ createSql? c preferences) : Begins "BEGIN " sql := by
  delta createSql? at h
  split at h
  · cases h
  · cases h
    exact (begins_append _ _).append _

theorem Numbering.begins_of_mem_createSql {c : Config} {n : Numbering} {sql : String}
    (h : sql ∈ n.createSql c) :
    Begins "create sequence " sql ∨
      Begins ("create trigger " ++ qualify c n.trigger.name ++ " before insert on "
        ++ wrapTable c n.trigger.table) sql := by
  rcases List.mem_pair.mp h with rfl | rfl
  · delta SequenceSpec.createSql
    exact .inl <| ((((((((begins_append _ _).append _).append _).append _).append _).append _).append
      _).append _).append _
  · delta TriggerSpec.createSql
    exact .inr <| ((((((begins_append _ _).append _).append _).append _).append _).append _).append _

/-! ### Statements that create a table -/

def CreatesTable (sql : String) : Prop :=
  Begins "create table " sql

theorem Preference.not_createsTable_of_mem_createSql? {c : Config} {preferences : List Preference}
    {sql : String} (h : sql ∈ createSql? c preferences) : ¬CreatesTable sql :=
  Apart.not_begins (by simp [Apart, begins_iff]) (begins_of_mem_createSql? h)

namespace Blueprint

variable {c : Config} {b : Blueprint}

theorem not_createsTable_of_mem_commandTexts {command : SchemaCommand} (h : command ≠ .create) :
    ∀ sql ∈ b.commandTexts c command, ¬CreatesTable sql := fun _ hsql =>
  (SchemaCommand.opening_apart_create c b.name h).not_begins (begins_of_mem_commandTexts hsql)

theorem not_createsTable_of_mem_commentsSql : ∀ sql ∈ b.commentsSql c, ¬CreatesTable sql := by
  intro sql h
  rcases begins_of_mem_commentsSql h with h | h
  · exact Apart.not_begins (by simp [Apart, begins_iff]) h
  · exact Apart.not_begins (by simp [Apart, begins_iff]) h

theorem not_createsTable_of_mem_numbering :
    ∀ sql ∈ ((b.serial?.map (Numbering.ofColumn c b.name)).map (·.createSql c)).getD [],
      ¬CreatesTable sql := by
  intro sql h
  cases hserial : b.serial? with
  | none =>
    rw [hserial] at h
    cases h
  | some column =>
    rw [hserial] at h
    rcases Numbering.begins_of_mem_createSql h with h | h
    · exact Apart.not_begins (by simp [Apart, begins_iff]) h
    · exact Apart.not_begins (by simp [Apart, begins_iff]) h

end Blueprint

end OracleSql
