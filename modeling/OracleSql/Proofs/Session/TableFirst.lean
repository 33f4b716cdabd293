import OracleSql.Proofs.Schema.CommandTexts
import OracleSql.Proofs.Schema.NumberedKey
import OracleSql.Proofs.Session.Exchanges

/-!
# The table before what uses it

A blueprint is carried out statement by statement, and none of them can be taken back; so a table has
to be there before it is altered, indexed or commented on.  A blueprint that does not say so is given
the command to create its table at the front.  One that says so is taken as it is, with the command
wherever it stands.

The commands and their statements are lists of which the same is asked (`OnceBefore`): one member of a
kind, and none of another kind before it.  Since no statement but that of the command creates a table,
and since each command shows in its statements, what is asked of the statements is asked of the commands
(`onceBefore_flatMap_iff`), and it is not always so (`Blueprint.created_first_iff`).
-/

namespace OracleSql

open Identifier

/-! ### Once, and before the rest -/

section OnceBefore

variable {α β : Type} {p q : α → Prop} {p' q' : β → Prop}

/-- A list has one member of a kind, and none of another kind before it. -/
def OnceBefore (p q : α → Prop) (xs : List α) : Prop :=
  ∃ before x after, xs = before ++ x :: after ∧ p x ∧ (∀ a ∈ before, ¬p a ∧ ¬q a) ∧
    ∀ a ∈ after, ¬p a

theorem onceBefore_cons_iff {x : α} {xs : List α} :
    OnceBefore p q (x :: xs) ↔
      (p x ∧ ∀ a ∈ xs, ¬p a) ∨ (¬p x ∧ ¬q x ∧ OnceBefore p q xs) := by
  constructor
  · rintro ⟨before, y, after, heq, hy, hbefore, hafter⟩
    cases before with
    | nil =>
      obtain ⟨rfl, rfl⟩ := List.cons.inj heq
      exact .inl ⟨hy, hafter⟩
    | cons z before =>
      obtain ⟨rfl, rfl⟩ := List.cons.inj heq
      obtain ⟨hx, hbefore⟩ := List.forall_mem_cons.mp hbefore
      exact .inr ⟨hx.1, hx.2, before, y, after, rfl, hy, hbefore, hafter⟩
  · rintro (⟨hx, hxs⟩ | ⟨hx, hqx, before, y, after, rfl, hy, hbefore, hafter⟩)
    · exact ⟨[], x, xs, rfl, hx, by simp, hxs⟩
    · exact ⟨x :: before, y, after, rfl, hy,
        List.forall_mem_cons.mpr ⟨⟨hx, hqx⟩, hbefore⟩, hafter⟩

theorem not_onceBefore_of_forall {xs : List α} (h : ∀ a ∈ xs, ¬p a) : ¬OnceBefore p q xs := by
  rintro ⟨before, x, after, rfl, hx, -, -⟩
  exact h x (by simp) hx

/-- What comes before and is not of the kind. -/
theorem onceBefore_append_iff {xs ys : List α} (hxs : ∀ a ∈ xs, ¬p a) :
    OnceBefore p q (xs ++ ys) ↔ (∀ a ∈ xs, ¬q a) ∧ OnceBefore p q ys := by
  induction xs with
  | nil => simp
  | cons x xs ih =>
    obtain ⟨hx, hxs⟩ := List.forall_mem_cons.mp hxs
    rw [List.cons_append, onceBefore_cons_iff, ih hxs, List.forall_mem_cons]
    simp [hx, and_assoc]

/-- What comes after and is not of the kind does not matter. -/
theorem onceBefore_append_iff_left {xs ys : List α} (hys : ∀ a ∈ ys, ¬p a) :
    OnceBefore p q (xs ++ ys) ↔ OnceBefore p q xs := by
  induction xs with
  | nil =>
    exact iff_of_false (not_onceBefore_of_forall hys) (not_onceBefore_of_forall (by simp))
  | cons x xs ih =>
    have hforall : (∀ a ∈ xs ++ ys, ¬p a) ↔ ∀ a ∈ xs, ¬p a := by
      rw [List.forall_mem_append]
      exact and_iff_left hys
    rw [List.cons_append, onceBefore_cons_iff, onceBefore_cons_iff, ih, hforall]

/-- **A list and what its members lead to**: when a member of the kind leads to one, and another
member leads to none, the first list is as asked exactly when the second is. -/
theorem onceBefore_flatMap_iff {f : α → List β} {xs : List α}
    (hp : ∀ x ∈ xs, p x → ∃ y, f x = [y] ∧ p' y) (hnp : ∀ x, ¬p x → ∀ y ∈ f x, ¬p' y)
    (hq : ∀ x ∈ xs, ¬p x → (q x ↔ ∃ y ∈ f x, q' y)) :
    OnceBefore p' q' (xs.flatMap f) ↔ OnceBefore p q xs := by
  induction xs with
  | nil => exact iff_of_false (not_onceBefore_of_forall (by simp)) (not_onceBefore_of_forall (by simp))
  | cons x xs ih =>
    obtain ⟨hpx, hp⟩ := List.forall_mem_cons.mp hp
    obtain ⟨hqx, hq⟩ := List.forall_mem_cons.mp hq
    rw [List.flatMap_cons, onceBefore_cons_iff]
    by_cases hx : p x
    · obtain ⟨y, hy, hpy⟩ := hpx hx
      have hrest : (∀ b ∈ xs.flatMap f, ¬p' b) ↔ ∀ a ∈ xs, ¬p a := by
        constructor
        · intro hnone a ha hpa
          obtain ⟨b, hb, hpb⟩ := hp a ha hpa
          exact hnone b (List.mem_flatMap.mpr ⟨a, ha, by simp [hb]⟩) hpb
        · intro hnone b hb
          obtain ⟨a, ha, hb⟩ := List.mem_flatMap.mp hb
          exact hnp a (hnone a ha) b hb
      rw [hy, List.singleton_append, onceBefore_cons_iff, hrest]
      simp [hx, hpy]
    · have hnone : (∀ b ∈ f x, ¬q' b) ↔ ¬q x := by
        rw [hqx hx, not_exists]
        simp only [not_and]
      rw [onceBefore_append_iff (hnp x hx), ih hp hq, hnone]
      simp [hx]

end OnceBefore

/-! ### Statements that use a table -/

/-- Statements that need the table to be there: they alter it, create an index on it, comment on it or
on a column of it, or create a trigger on it.  A statement that drops the table is not among them: it
takes an older one away. -/
inductive UsesTable (c : Config) (table : String) : String → Prop
  | alters {sql : String} (h : Begins (alterTable c table ++ " ") sql) : UsesTable c table sql
  | indexes {name sql : String}
      (h : Begins ("create index " ++ name ++ " on " ++ wrapTable c table) sql) :
      UsesTable c table sql
  | indexesText {name sql : String}
      (h : Begins ("begin execute immediate 'create index " ++ name ++ " on "
        ++ wrapTable c table) sql) : UsesTable c table sql
  | comments {sql : String} (h : Begins ("comment on table " ++ wrapTable c table) sql) :
      UsesTable c table sql
  | commentsColumn {sql : String} (h : Begins ("comment on column " ++ wrapTable c table) sql) :
      UsesTable c table sql
  | triggers {name sql : String}
      (h : Begins ("create trigger " ++ name ++ " before insert on " ++ wrapTable c table) sql) :
      UsesTable c table sql

theorem not_usesTable_of_begins {c : Config} {table opening sql : String}
    (h : Begins opening sql)
    (hapart : Apart opening "alter table " ∧ Apart opening "create index " ∧
      Apart opening "begin execute immediate 'create index " ∧ Apart opening "comment on " ∧
      Apart opening "create trigger ") :
    ¬UsesTable c table sql := by
  obtain ⟨halter, hindex, htext, hcomment, htrigger⟩ := hapart
  have hon {start name on sql : String} (h : Begins (start ++ name ++ on ++ wrapTable c table) sql) :
      Begins start sql :=
    .trans (((begins_append _ _).append _).append _) h
  intro huses
  cases huses with
  | alters h' => exact halter.not_begins h (.trans ((begins_append _ _).append _) h')
  | indexes h' => exact hindex.not_begins h (hon h')
  | indexesText h' => exact htext.not_begins h (hon h')
  | comments h' =>
    have htable : Begins "comment on " "comment on table " := ⟨"table ", rfl⟩
    exact hcomment.not_begins h (htable.trans (.trans (begins_append _ _) h'))
  | commentsColumn h' =>
    have hcolumn : Begins "comment on " "comment on column " := ⟨"column ", rfl⟩
    exact hcomment.not_begins h (hcolumn.trans (.trans (begins_append _ _) h'))
  | triggers h' => exact htrigger.not_begins h (hon h')

namespace SchemaCommand

/-- Whether a command of a blueprint that creates its table leads to statements which need the table to
be there. -/
def usesTable : SchemaCommand → Bool
  | add | change | dropColumns _ | rename _ | renameColumn _ _ | unique _ | index _ | dropPrimary _
  | dropUnique _ | dropForeign _ => true
  | fulltext spec => !spec.columns.isEmpty
  | create | drop | dropIfExists | primary _ | foreign _ | dropIndex _ | dropFulltext _ => false

variable {c : Config} {table sql : String} {command : SchemaCommand}

theorem fulltextIndexes_eq_nil_iff {spec : IndexSpec} :
    spec.fulltextIndexes c table = [] ↔ spec.columns = [] := by
  rw [← IndexSpec.columns_fulltextIndexes c table spec, List.map_eq_nil_iff]

theorem usesTable_of_begins (huses : command.usesTable = true)
    (h : Begins (command.opening c table) sql) : UsesTable c table sql := by
  have halters {change : String} (hchange : Begins " " change)
      (h : Begins (alterTable c table ++ change) sql) : UsesTable c table sql :=
    .alters ((hchange.after _).trans h)
  cases command with
  | create | drop | dropIfExists | primary _ | foreign _ | dropIndex _ | dropFulltext _ =>
    cases huses
  | add => exact halters ⟨"add ( ", rfl⟩ h
  | change => exact halters ⟨"modify ", rfl⟩ h
  | dropColumns _ => exact halters ⟨"drop ( ", rfl⟩ h
  | rename _ => exact halters ⟨"rename to ", rfl⟩ h
  | renameColumn _ _ => exact halters ⟨"rename column ", rfl⟩ h
  | unique _ => exact halters ⟨"add constraint ", rfl⟩ h
  | dropPrimary _ | dropUnique _ | dropForeign _ => exact halters ⟨"drop constraint ", rfl⟩ h
  | index spec => exact .indexes h
  | fulltext spec =>
    change Begins (FulltextIndex.blockOpening c table (spec.fulltextIndexes c table)) sql at h
    cases hindexes : spec.fulltextIndexes c table with
    | nil => simp [usesTable, fulltextIndexes_eq_nil_iff.mp hindexes] at huses
    | cons i rest =>
      rw [hindexes] at h
      exact .indexesText h

theorem not_usesTable_of_mem {b : Blueprint} (hcreating : b.isCreating = true)
    (huses : command.usesTable = false) (h : sql ∈ b.commandTexts c command) :
    ¬UsesTable c b.name sql := by
  have hbegins := Blueprint.begins_of_mem_commandTexts h
  cases command with
  | create | drop | dropIfExists | dropIndex _ =>
    delta opening at hbegins
    exact not_usesTable_of_begins hbegins (by simp [Apart, begins_iff])
  | dropFulltext spec =>
    delta opening at hbegins
    dsimp only at hbegins
    split at hbegins <;>
      exact not_usesTable_of_begins hbegins (by simp [Apart, begins_iff])
  | primary _ | foreign _ =>
    rw [Blueprint.commandTexts, Blueprint.markedCommand, if_pos hcreating] at h
    cases h
  | fulltext spec =>
    have hindexes : spec.fulltextIndexes c b.name = [] :=
      fulltextIndexes_eq_nil_iff.mpr (by simpa [usesTable] using huses)
    change Begins (FulltextIndex.blockOpening c b.name (spec.fulltextIndexes c b.name)) sql at hbegins
    rw [hindexes] at hbegins
    have hempty : Begins "begin  end;" sql := hbegins
    exact not_usesTable_of_begins hempty (by simp [Apart, begins_iff])
  | add | change | dropColumns _ | rename _ | renameColumn _ _ | unique _ | index _ | dropPrimary _
  | dropUnique _ | dropForeign _ => cases huses

end SchemaCommand

namespace Blueprint

variable {c : Config} {b : Blueprint}

theorem commandTexts_ne_nil {command : SchemaCommand} (huses : command.usesTable = true)
    (hadded : b.added ≠ []) (haccepted : ∃ texts, (b.commandSql c command).result = .ok texts) :
    b.commandTexts c command ≠ [] := by
  obtain ⟨texts, htexts⟩ := haccepted
  cases command with
  | create | drop | dropIfExists | primary _ | foreign _ | dropIndex _ | dropFulltext _ =>
    cases huses
  | add =>
    rw [commandTexts_add]
    delta addSql
    rw [if_neg (by simpa using hadded)]
    exact List.cons_ne_nil _ _
  | change =>
    rw [commandTexts_change]
    intro hnil
    have hchanged : b.changed.isEmpty = true := by simpa using hnil
    rw [commandSql] at htexts
    delta changeSql at htexts
    rw [if_pos hchanged] at htexts
    cases htexts
  | unique _ | index _ | fulltext _ | dropPrimary _ | dropUnique _ | dropForeign _ =>
    exact List.cons_ne_nil _ _
  | dropColumns _ | rename _ | renameColumn _ _ =>
    rw [commandTexts_of_unnamed (by rw [markedCommand]) htexts]
    cases htexts
    exact List.cons_ne_nil _ _

theorem accepted_of_mem_allCommands {statements : List String}
    (hplan : (b.plan c).result = .ok statements) {command : SchemaCommand}
    (h : command ∈ b.allCommands) : ∃ texts, (b.commandSql c command).result = .ok texts := by
  obtain ⟨_, _, _, _, hcommands, _, _⟩ := plan_eq_ok.mp hplan
  obtain ⟨texts, _, htexts⟩ := Compile.exists_mem_of_mapM hcommands h
  exact ⟨texts, htexts⟩

theorem create_not_mem_flagCommands (hasPrimary : Bool) (columns : List Column) :
    .create ∉ flagCommands hasPrimary columns := by
  induction columns generalizing hasPrimary with
  | nil => exact List.not_mem_nil
  | cons column rest ih => simp [flagCommands, ih]

/-- The table is created once, and before what uses it. -/
def TableFirst (c : Config) (table : String) (statements : List String) : Prop :=
  OnceBefore CreatesTable (UsesTable c table) statements

/-- The command to create the table is there once, and before those that use it. -/
def CreateFirst (commands : List SchemaCommand) : Prop :=
  OnceBefore (· = .create) (·.usesTable = true) commands

theorem onceBefore_commandTexts_iff {statements : List String}
    (hplan : (b.plan c).result = .ok statements) (hcreating : b.isCreating = true) :
    OnceBefore CreatesTable (UsesTable c b.name) (b.commands.flatMap (b.commandTexts c)) ↔
      CreateFirst b.commands := by
  have hmem : .create ∈ b.commands := by simpa [isCreating] using hcreating
  obtain ⟨_, _, hcreate⟩ := exists_createSql_mem hplan hmem
  obtain ⟨hadded, _⟩ := createSql_eq_ok.mp hcreate
  refine onceBefore_flatMap_iff ?_ (fun command => not_createsTable_of_mem_commandTexts) ?_
  · rintro command - rfl
    exact ⟨_, commandTexts_create c b, (((begins_append _ _).append _).append _).append _⟩
  · intro command hcommand _
    constructor
    · intro huses
      have hall : command ∈ b.allCommands := by simp [allCommands, hcommand]
      obtain ⟨sql, hsql⟩ := List.exists_mem_of_ne_nil _
        (commandTexts_ne_nil huses hadded (accepted_of_mem_allCommands hplan hall))
      exact ⟨sql, hsql, SchemaCommand.usesTable_of_begins huses (begins_of_mem_commandTexts hsql)⟩
    · rintro ⟨sql, hsql, huses⟩
      by_contra hnot
      exact SchemaCommand.not_usesTable_of_mem hcreating (by simpa using hnot) hsql huses

/-- **The table is created once and first exactly when the command for it is there once and first.** -/
theorem tableFirst_iff {statements : List String} (hplan : (b.plan c).result = .ok statements)
    (hcreating : b.isCreating = true) :
    TableFirst c b.name statements ↔ CreateFirst b.commands := by
  let preferences := (multiColumn b.commands).map (·.preference c b.name)
  have hcreates : ∀ sql ∈ (Preference.createSql? c preferences).toList, ¬CreatesTable sql :=
    fun sql h => Preference.not_createsTable_of_mem_createSql? (Option.mem_toList.mp h)
  have huses : ∀ sql ∈ (Preference.createSql? c preferences).toList, ¬UsesTable c b.name sql :=
    fun sql h => not_usesTable_of_begins
      (Preference.begins_of_mem_createSql? (Option.mem_toList.mp h)) (by simp [Apart, begins_iff])
  have hflags : ∀ sql ∈ (flagCommands (b.commands.any (·.isPrimary)) b.added).flatMap
      (b.commandTexts c), ¬CreatesTable sql := by
    intro sql h
    obtain ⟨command, hcommand, h⟩ := List.mem_flatMap.mp h
    refine not_createsTable_of_mem_commandTexts ?_ sql h
    rintro rfl
    exact create_not_mem_flagCommands _ _ hcommand
  rw [plan_eq_commandTexts hplan, TableFirst,
    onceBefore_append_iff_left not_createsTable_of_mem_numbering,
    onceBefore_append_iff_left not_createsTable_of_mem_commentsSql,
    onceBefore_append_iff hcreates, and_iff_right huses, allCommands, columnCommands,
    if_pos hcreating, List.nil_append, List.flatMap_append, onceBefore_append_iff_left hflags]
  exact onceBefore_commandTexts_iff hplan hcreating

end Blueprint

namespace Step

def textRequest (sql : String) : Request :=
  .execute sql []

/-- Execute a text, and forget how many rows it affects. -/
def carryOutText (sql : String) : Step PUnit := do
  let _ ← executeSql sql

theorem requests_carryOutText (sql : String) (s : Session) :
    (carryOutText sql s).exchanges.map (·.request) = [textRequest sql] := by
  obtain ⟨reply, hexchange, -⟩ := ask_cases (.execute sql []) s
  have hexchanges := (bind_pure_apply (executeSql sql) (fun _ => PUnit.unit) s).1
  exact congrArg (List.map (·.request)) (hexchanges.trans hexchange)

/-- **Texts are executed in order**, and all of them unless one fails. -/
theorem requests_executeAll (statements : List String) (s : Session) :
    (executeAll statements s).exchanges.map (·.request) <+: statements.map textRequest ∧
      ((executeAll statements s).result = .ok () →
        (executeAll statements s).exchanges.map (·.request) = statements.map textRequest) := by
  induction statements generalizing s with
  | nil => exact ⟨List.prefix_refl _, fun _ => rfl⟩
  | cons sql rest ih =>
    have hcons : executeAll (sql :: rest) = carryOutText sql >>= fun _ => executeAll rest := rfl
    rw [hcons, List.map_cons]
    cases hresult : (carryOutText sql s).result with
    | error e =>
      rw [exchanges_bind_of_error hresult, result_bind_of_error hresult, requests_carryOutText]
      exact ⟨⟨_, rfl⟩, fun h => by cases h⟩
    | ok _ =>
      obtain ⟨hsent, hall⟩ := ih (carryOutText sql s).session
      rw [exchanges_bind_of_ok hresult, result_bind_of_ok hresult, List.map_append,
        requests_carryOutText]
      exact ⟨(List.prefix_append_right_inj _).mpr hsent, fun h => congrArg (_ :: ·) (hall h)⟩

theorem requests_create {b : Blueprint} {s : Session} {statements : List String}
    (hplan : (b.creation.plan s.config).result = .ok statements) :
    (create b s).exchanges.map (·.request) <+: statements.map textRequest ∧
      ((create b s).result = .ok () →
        (create b s).exchanges.map (·.request) = statements.map textRequest) := by
  have hcompile : (ofCompile (b.creation.plan s.config) s).result = .ok statements := by
    rw [ofCompile, hplan]
    rfl
  have hcreate : create b s
      = (ofCompile (b.creation.plan s.config) >>= fun statements => executeAll statements) s :=
    config_bind _ s
  have hexchanges : (create b s).exchanges = (executeAll statements s).exchanges := by
    rw [hcreate, exchanges_bind_of_ok hcompile]
    rfl
  have hresult : (create b s).result = (executeAll statements s).result := by
    rw [hcreate, result_bind_of_ok hcompile]
    rfl
  rw [hexchanges, hresult]
  exact requests_executeAll statements s

end Step

/-- **When a table is created before what uses it.**  The statements to create a table are sent in the
order of the plan, and all of them unless one fails.  They contain one statement that creates a table,
and none before it that uses the table, exactly when a blueprint that says to create its table says so
once, and before the commands that use the table. -/
theorem Blueprint.created_first_iff (s : Session) (b : Blueprint) (statements : List String)
    (hplan : (b.creation.plan s.config).result = .ok statements) :
    ((Step.create b s).exchanges.map (·.request) <+: statements.map Step.textRequest ∧
      ((Step.create b s).result = .ok () →
        (Step.create b s).exchanges.map (·.request) = statements.map Step.textRequest)) ∧
      (TableFirst s.config b.name statements ↔ (b.isCreating = true → CreateFirst b.commands)) := by
  refine ⟨Step.requests_create hplan, ?_⟩
  have hname : b.creation.name = b.name := by
    rw [creation]
    split <;> rfl
  have hcreating : b.creation.isCreating = true := by
    simpa [isCreating] using b.create_mem_creation
  rw [← hname, tableFirst_iff hplan hcreating, creation]
  by_cases hsays : b.isCreating = true
  · rw [if_pos hsays, forall_prop_of_true hsays]
  · rw [if_neg hsays, CreateFirst, onceBefore_cons_iff]
    refine iff_of_true (.inl ⟨rfl, ?_⟩) fun h => absurd h hsays
    rintro command hcommand rfl
    exact hsays (by simpa [isCreating] using hcommand)

/-- A table whose index is created behind it. -/
theorem Blueprint.created_first_indexed :
    let s := Session.start .standard .empty
    let b : Blueprint :=
      { of "users" with
        columns := [{ Column.of "email" .string with length := some 100 }]
        commands := [.create, .index ⟨none, ["email"]⟩] }
    ∃ statements, (b.creation.plan s.config).result = .ok statements ∧
      (Step.create b s).exchanges.map (·.request) <+: statements.map Step.textRequest ∧
      TableFirst .standard "users" statements := by
  intro s b
  have hisOk : (b.creation.plan s.config).result.isOk = true := by decide +kernel
  have hfirst : CreateFirst b.commands := by simp [b, CreateFirst, onceBefore_cons_iff]
  cases hplan : (b.creation.plan s.config).result with
  | error e =>
    rw [hplan] at hisOk
    cases hisOk
  | ok statements =>
    obtain ⟨⟨hsent, -⟩, hiff⟩ := created_first_iff s b statements hplan
    exact ⟨statements, rfl, hsent, hiff.mpr fun _ => hfirst⟩

/-- **The command to create the table is not looked for at the front**: a blueprint that names an index
first has it created before its table. -/
theorem Blueprint.created_behind_its_index :
    let s := Session.start .standard .empty
    let b : Blueprint :=
      { of "users" with
        columns := [{ Column.of "email" .string with length := some 100 }]
        commands := [.index ⟨none, ["email"]⟩, .create] }
    let statements := ["create index users_email_index on users ( email )",
      "create table users ( email varchar2(100) not null )"]
    (Step.create b s).exchanges.map (·.request) = statements.map Step.textRequest ∧
      ¬TableFirst .standard "users" statements := by
  intro s b statements
  refine ⟨by decide +kernel, ?_⟩
  let opening := "create index " ++ "users_email_index" ++ " on " ++ wrapTable .standard "users"
  have hbegins : Begins opening "create index users_email_index on users ( email )" :=
    ⟨" ( email )", by decide +kernel⟩
  intro hfirst
  rcases onceBefore_cons_iff.mp hfirst with ⟨hcreates, -⟩ | ⟨-, hunused, -⟩
  · have hapart : Apart opening "create table " := by simp [opening, Apart, begins_iff]
    exact hapart.not_begins hbegins hcreates
  · exact hunused (.indexes hbegins)

end OracleSql
