import OracleSql.Proofs.Schema.FullTextNames

/-!
# Plans with their names marked

The statements of a blueprint hold names that the compilation makes up: of indexes and constraints,
of the sequence and the trigger of a numbered column, and of preferences.  To say something of all
of them, the statements are given once more with the names marked (`Blueprint.markedPlan`).  The
texts of the marked statements are the plan (`Blueprint.plan_eq_markedPlan`), which is checked
command by command.
-/

namespace OracleSql

open Identifier

/-! ### Statements with their names marked -/

/-- A part of a statement: a text that stands there, or the name of an object. -/
inductive NamedPart where
  | text (s : String)
  | name (s : String)

/-- What a part is in the statement. -/
def NamedPart.written : NamedPart → String
  | text s => s
  | name s => s

/-- A statement in which the names of objects are marked. -/
abbrev MarkedSql := List NamedPart

namespace MarkedSql

def plain (s : String) : MarkedSql := [.text s]

def text (m : MarkedSql) : String :=
  String.join (m.map NamedPart.written)

def joined (separator : String) : List MarkedSql → MarkedSql
  | [] => []
  | [m] => m
  | m :: rest => m ++ .text separator :: joined separator rest

/-- A name in the configured schema. -/
def qualified (c : Config) (name : String) : MarkedSql :=
  match c.schemaPrefix with
  | some schema => [.text (wrapValue c schema ++ "."), .name name]
  | none => [.name name]

@[simp] theorem text_plain (s : String) : text (plain s) = s := by
  simp [text, plain, NamedPart.written]

@[simp] theorem text_nil : text [] = "" := rfl

@[simp] theorem text_cons_text (s : String) (m : MarkedSql) :
    text (.text s :: m) = s ++ text m := by
  simp [text, NamedPart.written]

@[simp] theorem text_cons_name (s : String) (m : MarkedSql) :
    text (.name s :: m) = s ++ text m := by
  simp [text, NamedPart.written]

@[simp] theorem text_append (m m' : MarkedSql) : text (m ++ m') = text m ++ text m' := by
  simp [text]

@[simp] theorem text_joined (separator : String) (ms : List MarkedSql) :
    text (joined separator ms) = separator.intercalate (ms.map text) := by
  induction ms with
  | nil => rfl
  | cons m rest ih =>
    cases rest with
    | nil => simp [joined]
    | cons m' rest =>
      have hjoined : joined separator (m :: m' :: rest)
          = m ++ .text separator :: joined separator (m' :: rest) := rfl
      rw [hjoined, text_append, text_cons_text, ih, List.map_cons, List.map_cons, List.map_cons,
        String.intercalate_cons_cons, String.append_assoc]

@[simp] theorem text_qualified (c : Config) (name : String) :
    text (qualified c name) = qualify c name := by
  rw [qualified, qualify]
  cases c.schemaPrefix <;> simp

end MarkedSql

open MarkedSql

/-! ### The statements of a plan -/

def IndexSpec.markedKey (c : Config) (table : String) (spec : IndexSpec) : MarkedSql :=
  [.text "constraint ", .name (spec.objectName c table .primary),
    .text (" primary key ( " ++ columnList c spec.columns ++ " )")]

def ForeignKey.marked (c : Config) (table : String) (f : ForeignKey) : MarkedSql :=
  [.text "constraint ", .name (f.spec.objectName c table .foreign), .text (f.referenceSql c)]

def FulltextIndex.marked (c : Config) (table : String) (i : FulltextIndex) : MarkedSql :=
  [.text "execute immediate '", .text "create index ", .name i.name,
      .text (" on " ++ wrapTable c table ++ " (" ++ wrap c i.column
        ++ ") indextype is ctxsys.context parameters (''")]
    ++ (match i.datastore with
        | some preference => [.text "datastore ", .name preference, .text " "]
        | none => [])
    ++ [.text "sync(on commit)'')", .text "';"]

def Preference.marked (c : Config) (p : Preference) : MarkedSql :=
  [.text "ctx_ddl.create_preference('", .name p.name,
    .text "', 'MULTI_COLUMN_DATASTORE'); ctx_ddl.set_attribute('", .name p.name,
    .text ("', 'COLUMNS', '" ++ columnList c p.columns ++ "');")]

/-- The block that creates preferences, if there are any. -/
def Preference.marked? (c : Config) (preferences : List Preference) : Option MarkedSql :=
  if preferences.isEmpty then none
  else some (.text "BEGIN " :: joined " " (preferences.map (marked c)) ++ [.text " END;"])

def SequenceSpec.marked (c : Config) (s : SequenceSpec) : MarkedSql :=
  .text "create sequence " :: qualified c s.name
    ++ [.text (" minvalue " ++ toString s.minValue.toNat
      ++ (match s.maxValue with
          | some bound => " maxvalue " ++ toString bound.toNat
          | none => "")
      ++ " start with " ++ toString s.startValue.toNat
      ++ " increment by " ++ toString s.incrementBy.toNat
      ++ (if s.nocache then " nocache" else ""))]

def TriggerSpec.marked (c : Config) (t : TriggerSpec) : MarkedSql :=
  .text "create trigger " :: qualified c t.name
    ++ .text (" before insert on " ++ wrapTable c t.table ++ " for each row begin if :new."
        ++ wrapValue c t.column ++ " is null then select ") :: qualified c t.sequenceName
    ++ [.text (".nextval into :new." ++ wrapValue c t.column ++ " from dual; end if; end;")]

def Numbering.marked (c : Config) (n : Numbering) : List MarkedSql :=
  [n.sequence.marked c, n.trigger.marked c]

namespace Blueprint

def markedCreate (c : Config) (b : Blueprint) : MarkedSql :=
  .text ("create table " ++ wrapTable c b.name ++ " ( ")
    :: joined ", " (b.added.map (fun column => plain (column.definitionSql c))
      ++ (foreignKeys b.allCommands).map (ForeignKey.marked c b.name)
      ++ (primaryKey? b.allCommands).toList.map (IndexSpec.markedKey c b.name))
    ++ [.text " )"]

/-- A key that is added to a table; `columns` is what follows its name. -/
def markedAdd (c : Config) (b : Blueprint) (kind : IndexKind) (spec : IndexSpec)
    (columns : String) : MarkedSql :=
  [.text (alterTable c b.name ++ " add constraint "), .name (spec.objectName c b.name kind),
    .text columns]

def markedAddForeign (c : Config) (b : Blueprint) (key : ForeignKey) : MarkedSql :=
  .text (alterTable c b.name ++ " add ") :: key.marked c b.name

def markedIndex (c : Config) (b : Blueprint) (spec : IndexSpec) : MarkedSql :=
  [.text "create index ", .name (spec.objectName c b.name .index),
    .text (" on " ++ wrapTable c b.name ++ " ( " ++ columnList c spec.columns ++ " )")]

def markedFulltext (c : Config) (b : Blueprint) (spec : IndexSpec) : MarkedSql :=
  .text "begin " :: joined " " ((spec.fulltextIndexes c b.name).map (FulltextIndex.marked c b.name))
    ++ [.text " end;"]

def markedDropConstraint (c : Config) (b : Blueprint) (kind : IndexKind) (spec : IndexSpec) :
    MarkedSql :=
  [.text (alterTable c b.name ++ " drop constraint "), .name (spec.objectName c b.name kind)]

def markedDropIndex (c : Config) (b : Blueprint) (kind : IndexKind) (spec : IndexSpec) :
    MarkedSql :=
  [.text "drop index ", .name (spec.objectName c b.name kind)]

/-- The statements of a command that names nothing. -/
def unnamed (c : Config) (b : Blueprint) (command : SchemaCommand) : List MarkedSql :=
  match (b.commandSql c command).result with
  | .ok texts => texts.map plain
  | .error _ => []

/-- **The statements of a command**, with the names in them marked. -/
def markedCommand (c : Config) (b : Blueprint) (command : SchemaCommand) : List MarkedSql :=
  match command with
  | .create => [b.markedCreate c]
  | .primary spec =>
    if b.isCreating then []
    else [b.markedAdd c .primary spec (" primary key (" ++ columnList c spec.columns ++ ")")]
  | .foreign key =>
    if b.isCreating then [] else [b.markedAddForeign c key]
  | .unique spec =>
    [b.markedAdd c .unique spec (" unique ( " ++ columnList c spec.columns ++ " )")]
  | .index spec => [b.markedIndex c spec]
  | .fulltext spec => [b.markedFulltext c spec]
  | .dropPrimary spec => [b.markedDropConstraint c .primary spec]
  | .dropUnique spec => [b.markedDropConstraint c .unique spec]
  | .dropForeign spec => [b.markedDropConstraint c .foreign spec]
  | .dropIndex spec => [b.markedDropIndex c .index spec]
  | .dropFulltext spec =>
    if spec.columns.isEmpty then [b.markedDropIndex c .fulltext spec]
    else b.unnamed c (.dropFulltext spec)
  | .add | .change | .drop | .dropIfExists | .dropColumns _ | .rename _ | .renameColumn _ _ =>
    b.unnamed c command

/-- The blueprint's plan, with the names in it marked: preferences, commands, comments, and the
sequence and the trigger. -/
def markedPlan (c : Config) (b : Blueprint) : List MarkedSql :=
  (Preference.marked? c ((multiColumn b.commands).map (·.preference c b.name))).toList
    ++ b.allCommands.flatMap (b.markedCommand c) ++ (b.commentsSql c).map plain
    ++ ((b.serial?.map (Numbering.ofColumn c b.name)).map (·.marked c)).getD []

end Blueprint

/-! ### The texts of the marked statements -/

theorem IndexSpec.text_markedKey (c : Config) (table : String) (spec : IndexSpec) :
    text (spec.markedKey c table) = spec.keyConstraint c table := by
  simp [markedKey, keyConstraint, objectName, String.append_assoc]

theorem ForeignKey.result_constraintSql (c : Config) (table : String) (f : ForeignKey) :
    (f.constraintSql c table).result = .ok (text (f.marked c table)) := by
  refine Compile.result_bind_eq_ok.mpr ⟨_, result_specName _ _ _ _, ?_⟩
  simp [marked, IndexSpec.objectName, String.append_assoc]

theorem FulltextIndex.text_marked (c : Config) (table : String) (i : FulltextIndex) :
    text (i.marked c table) = "execute immediate '" ++ i.sql c table ++ "';" := by
  delta marked sql
  cases i.datastore <;> simp [String.append_assoc]

theorem Preference.text_marked (c : Config) (p : Preference) :
    text (p.marked c) = createCalls c p := by
  delta marked createCalls
  simp [String.append_assoc]

theorem Preference.text_marked? (c : Config) (preferences : List Preference) :
    (marked? c preferences).map text = createSql? c preferences := by
  rw [marked?, createSql?]
  split
  · rfl
  · simp [Function.comp_def, Preference.text_marked, String.append_assoc]

theorem SequenceSpec.text_marked (c : Config) (s : SequenceSpec) :
    text (s.marked c) = s.createSql c := by
  delta marked createSql
  cases s.maxValue <;> simp [String.append_assoc]

theorem TriggerSpec.text_marked (c : Config) (t : TriggerSpec) :
    text (t.marked c) = t.createSql c := by
  delta marked createSql
  simp [String.append_assoc]

theorem Numbering.text_marked (c : Config) (n : Numbering) :
    (n.marked c).map text = n.createSql c := by
  rw [marked, createSql, List.map_cons, List.map_cons, SequenceSpec.text_marked,
    TriggerSpec.text_marked, List.map_nil]

theorem Compile.eq_map_of_mapM {α β : Type} {f : α → Compile β} {g : α → β} {xs : List α}
    {ys : List β} (hfg : ∀ x y, (f x).result = .ok y → y = g x)
    (h : (xs.mapM f).result = .ok ys) : ys = xs.map g := by
  induction xs generalizing ys with
  | nil =>
    cases h
    rfl
  | cons x rest ih =>
    rw [List.mapM_cons] at h
    obtain ⟨y, hy, h⟩ := Compile.result_bind_eq_ok.mp h
    obtain ⟨others, hothers, h⟩ := Compile.result_bind_eq_ok.mp h
    cases h
    rw [List.map_cons, hfg x y hy, ih hothers]

namespace Blueprint

theorem text_markedCreate {c : Config} {b : Blueprint} {sql : String}
    (h : (b.createSql c b.allCommands).result = .ok sql) : sql = text (b.markedCreate c) := by
  obtain ⟨_, foreign, hforeign, rfl⟩ := createSql_eq_ok.mp h
  have hforeign := Compile.eq_map_of_mapM (g := fun key => text (key.marked c b.name))
    (fun key sql h => by
      rw [ForeignKey.result_constraintSql] at h
      exact (Except.ok.inj h).symm) hforeign
  rw [hforeign]
  delta createText markedCreate
  cases primaryKey? b.allCommands <;>
    simp [Function.comp_def, String.append_assoc, IndexSpec.text_markedKey]

section
variable (c : Config) (b : Blueprint) (spec : IndexSpec)

theorem result_addPrimarySql :
    (b.addPrimarySql c spec).result
      = .ok (text (b.markedAdd c .primary spec (" primary key (" ++ columnList c spec.columns ++ ")"))) := by
  refine Compile.result_bind_eq_ok.mpr ⟨_, result_specName _ _ _ _, ?_⟩
  simp [markedAdd, IndexSpec.objectName, String.append_assoc]

theorem result_addForeignSql (key : ForeignKey) :
    (b.addForeignSql c key).result = .ok (text (b.markedAddForeign c key)) := by
  refine Compile.result_bind_eq_ok.mpr ⟨_, key.result_constraintSql _ _, ?_⟩
  simp [markedAddForeign, String.append_assoc]

theorem result_addUniqueSql :
    (b.addUniqueSql c spec).result
      = .ok (text (b.markedAdd c .unique spec (" unique ( " ++ columnList c spec.columns ++ " )"))) := by
  refine Compile.result_bind_eq_ok.mpr ⟨_, result_specName _ _ _ _, ?_⟩
  simp [markedAdd, IndexSpec.objectName, String.append_assoc]

theorem result_createIndexSql :
    (b.createIndexSql c spec).result = .ok (text (b.markedIndex c spec)) := by
  refine Compile.result_bind_eq_ok.mpr ⟨_, result_specName _ _ _ _, ?_⟩
  simp [markedIndex, IndexSpec.objectName, String.append_assoc]

theorem result_dropConstraintSql (kind : IndexKind) :
    (b.dropConstraintSql c kind spec).result = .ok (text (b.markedDropConstraint c kind spec)) := by
  refine Compile.result_bind_eq_ok.mpr ⟨_, result_specName _ _ _ _, ?_⟩
  simp [markedDropConstraint, IndexSpec.objectName, String.append_assoc]

theorem result_dropIndexSql :
    (b.dropIndexSql c spec).result = .ok (text (b.markedDropIndex c .index spec)) := by
  refine Compile.result_bind_eq_ok.mpr ⟨_, result_specName _ _ _ _, ?_⟩
  simp [markedDropIndex, IndexSpec.objectName]

theorem text_markedFulltext :
    text (b.markedFulltext c spec)
      = IndexSpec.fulltextBlock c b.name (spec.fulltextIndexes c b.name) := by
  rw [markedFulltext, IndexSpec.fulltextBlock]
  simp [Function.comp_def, FulltextIndex.text_marked, String.append_assoc]

end

theorem texts_of_single {x : Compile String} {m : MarkedSql} {texts : List String}
    (hx : x.result = .ok (text m)) (h : (x >>= fun sql => pure [sql]).result = .ok texts) :
    texts = [m].map text := by
  obtain ⟨sql, hsql, h⟩ := Compile.result_bind_eq_ok.mp h
  cases h
  cases hx.symm.trans hsql
  rfl

/-- **The texts of the marked statements are the statements of the command.** -/
theorem text_markedCommand {c : Config} {b : Blueprint} {command : SchemaCommand}
    {texts : List String} (h : (b.commandSql c command).result = .ok texts) :
    texts = (b.markedCommand c command).map text := by
  have hunnamed : texts = (b.unnamed c command).map text := by
    rw [unnamed, h, List.map_map, Function.comp_def]
    simp
  cases command with
  | create =>
    obtain ⟨sql, hsql, h⟩ := Compile.result_bind_eq_ok.mp h
    cases h
    rw [text_markedCreate hsql]
    rfl
  | primary spec =>
    rw [commandSql] at h
    rw [markedCommand]
    split at h
    · next hcreating =>
      cases h
      rw [if_pos hcreating]
      rfl
    · next hcreating =>
      rw [if_neg hcreating]
      exact texts_of_single (result_addPrimarySql c b spec) h
  | foreign key =>
    rw [commandSql] at h
    rw [markedCommand]
    split at h
    · next hcreating =>
      cases h
      rw [if_pos hcreating]
      rfl
    · next hcreating =>
      rw [if_neg hcreating]
      exact texts_of_single (result_addForeignSql c b key) h
  | unique spec => exact texts_of_single (result_addUniqueSql c b spec) h
  | index spec => exact texts_of_single (result_createIndexSql c b spec) h
  | fulltext spec =>
    refine texts_of_single ?_ h
    rw [text_markedFulltext]
    exact IndexSpec.result_createFulltext c b.name spec
  | dropPrimary spec => exact texts_of_single (result_dropConstraintSql c b spec .primary) h
  | dropUnique spec => exact texts_of_single (result_dropConstraintSql c b spec .unique) h
  | dropForeign spec => exact texts_of_single (result_dropConstraintSql c b spec .foreign) h
  | dropIndex spec => exact texts_of_single (result_dropIndexSql c b spec) h
  | dropFulltext spec =>
    rw [markedCommand]
    split
    · next hempty =>
      refine texts_of_single ?_ h
      rw [IndexSpec.dropFulltext, if_pos hempty]
      refine Compile.result_bind_eq_ok.mpr ⟨_, result_specName _ _ _ _, ?_⟩
      simp [markedDropIndex, IndexSpec.objectName]
    · exact hunnamed
  | add | change | drop | dropIfExists | dropColumns _ | rename _ | renameColumn _ _ =>
    exact hunnamed

/-- **The texts of the marked statements are the plan.** -/
theorem plan_eq_markedPlan {c : Config} {b : Blueprint} {statements : List String}
    (h : (b.plan c).result = .ok statements) : statements = (b.markedPlan c).map text := by
  obtain ⟨preferences, commands, numbering, hpreferences, hcommands, hnumbering, rfl⟩ :=
    plan_eq_ok.mp h
  cases (Preference.result_ofCommands c b.name b.commands).symm.trans hpreferences
  cases (Numbering.result_ofBlueprint c b).symm.trans hnumbering
  have hcommands : commands = b.allCommands.map fun command =>
      (b.markedCommand c command).map text :=
    Compile.eq_map_of_mapM (fun command texts => text_markedCommand) hcommands
  have hflatten : commands.flatten = (b.allCommands.flatMap (b.markedCommand c)).map text := by
    rw [hcommands, List.map_flatMap, List.flatMap_def]
  have hpreferences := Preference.text_marked? c
    ((multiColumn b.commands).map (·.preference c b.name))
  rw [hflatten, markedPlan, List.map_append, List.map_append, List.map_append, ← hpreferences,
    Option.toList_map]
  congr 1
  · rw [List.map_map, Function.comp_def]
    simp
  · cases b.serial? with
    | none => rfl
    | some column => exact (Numbering.text_marked c _).symm

end Blueprint

end OracleSql
