import OracleSql.Proofs.Schema.Accepted
import OracleSql.Session.Schema

/-!
# The primary key of a table with a numbered column

Two scans of a blueprint have to agree.  One looks for the column that is numbered
(`Blueprint.serial?`), and its sequence and trigger are created; the other looks for the primary
key, among the commands first and then among the flags of the columns.  When the table is dropped,
only the first column of its primary key is known, and the objects that are dropped are those of
this column.

`primaryKey?_allCommands` says what the second scan finds, and `key_starts_with_numbered_iff` when
it is a key that starts with the numbered column.  A key of its own beside the numbered column is
accepted, and then the objects stay behind (`key_beside_numbered`).
-/

namespace OracleSql

/-! ### The key that the second scan finds -/

theorem primaryKey?_append (first second : List SchemaCommand) :
    primaryKey? (first ++ second) = (primaryKey? first).or (primaryKey? second) :=
  List.findSome?_append

theorem any_isPrimary (commands : List SchemaCommand) :
    commands.any (·.isPrimary) = (primaryKey? commands).isSome := by
  induction commands with
  | nil => rfl
  | cons command rest ih =>
    rw [List.any_cons, ih]
    cases command <;> rfl

namespace Blueprint

/-- The new column that becomes the primary key when no command declares one: the first that is
flagged or numbered. -/
def impliedKey? (b : Blueprint) : Option Column :=
  b.added.find? fun column => column.primary || column.isSerial

/-- Flags declare one primary key at most, and none beside one that is there. -/
theorem primaryKey?_flagCommands (hasPrimary : Bool) (columns : List Column) :
    primaryKey? (flagCommands hasPrimary columns)
      = if hasPrimary then none
        else (columns.find? fun column => column.primary || column.isSerial).map
          fun column => ⟨none, [column.name]⟩ := by
  induction columns generalizing hasPrimary with
  | nil => cases hasPrimary <;> rfl
  | cons column rest ih =>
    have hunique (spec : IndexSpec) :
        primaryKey? (if column.unique then [.unique spec] else []) = none := by
      split <;> rfl
    have hindex (spec : IndexSpec) :
        primaryKey? (if column.index then [.index spec] else []) = none := by
      split <;> rfl
    rw [flagCommands, primaryKey?_append, primaryKey?_append, primaryKey?_append, hunique, hindex, ih,
      List.find?_cons]
    cases hasPrimary with
    | true => simp [primaryKey?]
    | false => cases hkey : (column.primary || column.isSerial) <;> simp [primaryKey?]

/-- Columns brought into a table that exists declare no key. -/
theorem primaryKey?_columnCommands (b : Blueprint) : primaryKey? b.columnCommands = none := by
  rw [columnCommands]
  split
  · rfl
  · rw [primaryKey?_append]
    split <;> split <;> rfl

/-- **The primary key of a blueprint** is the first one that a command declares, or else the
column that is flagged or numbered first. -/
theorem primaryKey?_allCommands (b : Blueprint) :
    primaryKey? b.allCommands
      = (primaryKey? b.commands).or (b.impliedKey?.map fun column => ⟨none, [column.name]⟩) := by
  rw [allCommands, primaryKey?_append, primaryKey?_append, primaryKey?_columnCommands,
    primaryKey?_flagCommands, any_isPrimary, impliedKey?]
  cases primaryKey? b.commands <;> rfl

/-! ### Creating a table -/

/-- The blueprint under which a table is created: it has the command to create the table. -/
def creation (b : Blueprint) : Blueprint :=
  if b.isCreating then b else { b with commands := .create :: b.commands }

theorem create_mem_creation (b : Blueprint) : .create ∈ b.creation.commands := by
  rw [creation]
  split
  · next h => simpa [isCreating] using h
  · exact List.mem_cons_self

theorem added_creation (b : Blueprint) : b.creation.added = b.added := by
  rw [creation]
  split <;> rfl

theorem serial?_creation (b : Blueprint) : b.creation.serial? = b.serial? := by
  rw [serial?, added_creation, serial?]

theorem primaryKey?_creation (b : Blueprint) :
    primaryKey? b.creation.allCommands
      = (primaryKey? b.commands).or (b.impliedKey?.map fun column => ⟨none, [column.name]⟩) := by
  have hcommands : primaryKey? b.creation.commands = primaryKey? b.commands := by
    rw [creation]
    split <;> rfl
  rw [primaryKey?_allCommands, hcommands, impliedKey?, added_creation, impliedKey?]

theorem exists_impliedKey? {b : Blueprint} {column : Column} (h : b.serial? = some column) :
    ∃ first, b.impliedKey? = some first := by
  refine Option.isSome_iff_exists.mp (List.find?_isSome.mpr ⟨column, ?_, ?_⟩)
  · exact List.mem_of_find?_eq_some h
  · rw [List.find?_some h, Bool.or_true]

end Blueprint

/-- What is numbered is the first new column that can be. -/
theorem Numbering.serial?_of_ofBlueprint {c : Config} {b : Blueprint} {n : Numbering}
    (h : (Numbering.ofBlueprint c b).result = .ok (some n)) :
    ∃ column, b.serial? = some column ∧ n.trigger.column = column.name := by
  rw [Numbering.result_ofBlueprint] at h
  obtain ⟨column, hserial, hn⟩ := Option.map_eq_some_iff.mp (Except.ok.inj h)
  rw [← hn]
  exact ⟨column, hserial, rfl⟩

namespace Blueprint

/-- **When the key of a new table starts with its numbered column.**  A table is created by the plan
of `creation`.  A plan that numbers a column ends with its sequence and its trigger, and the
statement that creates the table declares a primary key.  The key starts with the column exactly
when the first key that a command declares does, or when no command declares one and no other
column is flagged as the key before the numbered one. -/
theorem key_starts_with_numbered_iff (c : Config) (b : Blueprint) (statements : List String)
    (n : Numbering) (hplan : (b.creation.plan c).result = .ok statements)
    (hnumbering : (Numbering.ofBlueprint c b.creation).result = .ok (some n)) :
    Step.create b = Step.alter b.creation ∧
      [n.sequence.createSql c, n.trigger.createSql c] <:+ statements ∧
      ∃ key foreign, primaryKey? b.creation.allCommands = some key ∧
        b.createText c (foreign ++ [key.keyConstraint c b.name]) ∈ statements ∧
        (key.columns.head? = some n.trigger.column ↔
          (∃ declared, primaryKey? b.commands = some declared ∧
              declared.columns.head? = some n.trigger.column) ∨
            (primaryKey? b.commands = none ∧
              ∃ first, b.impliedKey? = some first ∧ first.name = n.trigger.column)) := by
  obtain ⟨column, hserial, hcolumn⟩ := Numbering.serial?_of_ofBlueprint hnumbering
  rw [serial?_creation] at hserial
  obtain ⟨first, hfirst⟩ := exists_impliedKey? hserial
  obtain ⟨sql, hmem, hsql⟩ := exists_createSql_mem hplan b.create_mem_creation
  obtain ⟨_, foreign, _, rfl⟩ := createSql_eq_ok.mp hsql
  have hname : b.creation.name = b.name := by rw [creation]; split <;> rfl
  have htext (constraints : List String) :
      b.creation.createText c constraints = b.createText c constraints := by
    delta createText
    rw [added_creation, hname]
  refine ⟨rfl, ?_, ?_⟩
  · obtain ⟨_, _, numbering, _, _, hn, rfl⟩ := plan_eq_ok.mp hplan
    rw [hnumbering] at hn
    cases hn
    exact List.suffix_append _ _
  · rw [htext, hname] at hmem
    cases hdeclared : primaryKey? b.commands with
    | some declared =>
      have hkey : primaryKey? b.creation.allCommands = some declared := by
        rw [primaryKey?_creation, hdeclared, Option.some_or]
      rw [hkey] at hmem
      exact ⟨declared, foreign, hkey, hmem, by simp⟩
    | none =>
      have hkey : primaryKey? b.creation.allCommands = some ⟨none, [first.name]⟩ := by
        rw [primaryKey?_creation, hdeclared, hfirst, Option.none_or, Option.map_some]
      rw [hkey] at hmem
      exact ⟨_, foreign, hkey, hmem, by simp [hfirst]⟩

/-- A declared key of two columns that starts with the numbered one. -/
theorem key_starts_with_numbered_pair :
    let b : Blueprint :=
      { of "orders" with
        columns := [Column.of "region" .string, { Column.of "id" .integer with autoIncrement := true }]
        commands := [.primary ⟨none, ["id", "region"]⟩] }
    ∃ statements n, (b.creation.plan .standard).result = .ok statements ∧
      (Numbering.ofBlueprint .standard b.creation).result = .ok (some n) ∧
      [n.sequence.createSql .standard, n.trigger.createSql .standard] <:+ statements ∧
      ∃ key foreign, primaryKey? b.creation.allCommands = some key ∧
        b.createText .standard (foreign ++ [key.keyConstraint .standard b.name]) ∈ statements ∧
        key.columns.head? = some n.trigger.column := by
  intro b
  have hisOk : (b.creation.plan .standard).result.isOk = true := by decide +kernel
  have hnumbering : ∃ n, (Numbering.ofBlueprint .standard b.creation).result = .ok (some n) ∧
      n.trigger.column = "id" :=
    ⟨_, Compile.result_bind_eq_ok.mpr ⟨_, Identifier.result_shortened _ _,
      Compile.result_bind_eq_ok.mpr ⟨_, Identifier.result_shortened _ _, rfl⟩⟩, rfl⟩
  obtain ⟨n, hnumbering, hcolumn⟩ := hnumbering
  cases hplan : (b.creation.plan .standard).result with
  | error e =>
    rw [hplan] at hisOk
    cases hisOk
  | ok statements =>
    obtain ⟨-, hends, key, foreign, hkey, hmem, hiff⟩ :=
      key_starts_with_numbered_iff .standard b statements n hplan hnumbering
    refine ⟨statements, n, rfl, hnumbering, hends, key, foreign, hkey, hmem, hiff.mpr (.inl ?_)⟩
    exact ⟨⟨none, ["id", "region"]⟩, rfl, by rw [hcolumn]; rfl⟩

/-- **A key beside the numbered column**: `code` is flagged before `id` is numbered.  The key of
the table is `code`, and the sequence and the trigger are those of `id`; what is dropped for the
key `code` are two other objects. -/
theorem key_beside_numbered :
    let b : Blueprint :=
      { of "orders" with
        columns := [{ Column.of "code" .string with primary := true },
          { Column.of "id" .integer with autoIncrement := true }] }
    (b.creation.plan .standard).result.toOption = some [
      "create table orders ( code varchar2(255) not null, id number(10,0) not null, "
        ++ "constraint orders_code_pk primary key ( code ) )",
      "create sequence orders_id_seq minvalue 1 start with 1 increment by 1",
      "create trigger orders_id_trg before insert on orders for each row begin "
        ++ "if :new.id is null then select orders_id_seq.nextval into :new.id from dual; "
        ++ "end if; end;"] ∧
    (Numbering.dropSql .standard "orders" "code").result.toOption = some [
      SequenceSpec.dropSql .standard "orders_code_seq",
      TriggerSpec.dropSql .standard "orders_code_trg"] := by
  decide +kernel

end Blueprint

end OracleSql
