import Mathlib.Data.List.Perm.Subperm
import OracleSql.Proofs.Schema.MarkedPlan

/-!
# Indexes and constraints that are dropped by name

The command that makes an index or constraint and the one that drops it are compiled apart, and
both make its name fit the limit.  `MarkedSql.objects` reads the constraints and indexes off a
statement with its names marked, and `Blueprint.madeObjects` says what a command makes: it stands in
a statement of its own, or in the statement that creates the table.

A drop by name names one object.  This is what the command has made, except for a full-text command
on several columns: it makes an index for each of them, under numbered names
(`Blueprint.dropped_by_name_iff`).
-/

namespace OracleSql

open Identifier MarkedSql

/-! ### The objects in a statement -/

namespace MarkedSql

/-- Whether the name of a constraint or index follows a text. -/
def announces (s : String) : Bool :=
  "constraint ".toList.isSuffixOf s.toList || "index ".toList.isSuffixOf s.toList

/-- The constraints and indexes in a part of a statement, behind a text that announces one or
does not. -/
def objectsFrom : Bool → MarkedSql → List String
  | _, [] => []
  | _, .text s :: rest => objectsFrom (announces s) rest
  | announced, .name n :: rest => (if announced then [n] else []) ++ objectsFrom false rest

/-- **The constraints and indexes that a statement names.** -/
def objects (m : MarkedSql) : List String :=
  objectsFrom false m

theorem announces_append (s : String) {t : String} (h : announces t = true) :
    announces (s ++ t) = true := by
  rw [announces, Bool.or_eq_true, List.isSuffixOf_iff_suffix, List.isSuffixOf_iff_suffix] at h ⊢
  rw [String.toList_append]
  exact h.imp (·.trans (List.suffix_append _ _)) (·.trans (List.suffix_append _ _))

theorem objectsFrom_append (announced : Bool) (m : MarkedSql) (s : String) (rest : MarkedSql) :
    objectsFrom announced (m ++ .text s :: rest)
      = objectsFrom announced m ++ objectsFrom (announces s) rest := by
  induction m generalizing announced with
  | nil => rfl
  | cons part m ih =>
    cases part with
    | text _ => exact ih _
    | name n =>
      rw [List.cons_append, objectsFrom, objectsFrom, ih, List.append_assoc]

theorem objects_joined {separator : String} (h : announces separator = false)
    (ms : List MarkedSql) : objects (joined separator ms) = ms.flatMap objects := by
  induction ms with
  | nil => rfl
  | cons m rest ih =>
    cases rest with
    | nil => rw [List.flatMap_singleton]; rfl
    | cons m' rest =>
      rw [joined, objects, objectsFrom_append, h, List.flatMap_cons]
      · exact congrArg (objects m ++ ·) ih
      · intro hnil
        cases hnil

theorem objects_named {before : String} (h : announces before = true) (n after : String) :
    objects [.text before, .name n, .text after] = [n] := by
  simp only [objects, objectsFrom, h, if_true, List.append_nil]

theorem infix_joined (separator : String) {ms : List MarkedSql} {m : MarkedSql} (h : m ∈ ms) :
    m <:+: joined separator ms := by
  induction ms with
  | nil => cases h
  | cons first rest ih =>
    cases rest with
    | nil =>
      rw [List.mem_singleton.mp h]
      exact List.infix_rfl
    | cons second rest =>
      rcases List.mem_cons.mp h with rfl | h
      · exact (List.prefix_append _ _).isInfix
      · exact (ih h).trans ((List.suffix_cons _ _).trans (List.suffix_append _ _)).isInfix

end MarkedSql

/-! ### What a command makes -/

def SchemaCommand.made? : SchemaCommand → Option (IndexKind × IndexSpec)
  | primary spec => some (.primary, spec)
  | unique spec => some (.unique, spec)
  | index spec => some (.index, spec)
  | foreign key => some (.foreign, key.spec)
  | fulltext spec => some (.fulltext, spec)
  | _ => none

def SchemaCommand.dropped? : SchemaCommand → Option (IndexKind × IndexSpec)
  | dropPrimary spec => some (.primary, spec)
  | dropUnique spec => some (.unique, spec)
  | dropIndex spec => some (.index, spec)
  | dropForeign spec => some (.foreign, spec)
  | dropFulltext spec => some (.fulltext, spec)
  | _ => none

/-- The statement that drops an object of a table by its name. -/
def IndexKind.dropSql (c : Config) (table object : String) : IndexKind → String
  | primary | unique | foreign => alterTable c table ++ " drop constraint " ++ object
  | index | fulltext => "drop index " ++ object

namespace Blueprint

/-- **What a command makes**, with its names marked: its own statement, or its part of the statement
that creates the table. -/
def making (c : Config) (b : Blueprint) (command : SchemaCommand) : List MarkedSql :=
  match command with
  | .primary spec =>
    if b.isCreating then
      if primaryKey? b.allCommands = some spec then [spec.markedKey c b.name] else []
    else b.markedCommand c (.primary spec)
  | .foreign key =>
    if b.isCreating then [key.marked c b.name] else b.markedCommand c (.foreign key)
  | command => b.markedCommand c command

def madeObjects (c : Config) (b : Blueprint) (command : SchemaCommand) : List String :=
  (b.making c command).flatMap objects

theorem result_commandSql_of_made (c : Config) (b : Blueprint) {command : SchemaCommand}
    (h : command.made?.isSome = true) :
    (b.commandSql c command).result = .ok ((b.markedCommand c command).map text) := by
  have hok : ∃ texts, (b.commandSql c command).result = .ok texts := by
    cases command with
    | primary spec =>
      rw [commandSql]
      split
      · exact ⟨_, rfl⟩
      · exact ⟨_, Compile.result_bind_eq_ok.mpr ⟨_, result_addPrimarySql c b spec, rfl⟩⟩
    | foreign key =>
      rw [commandSql]
      split
      · exact ⟨_, rfl⟩
      · exact ⟨_, Compile.result_bind_eq_ok.mpr ⟨_, result_addForeignSql c b key, rfl⟩⟩
    | unique spec =>
      exact ⟨_, Compile.result_bind_eq_ok.mpr ⟨_, result_addUniqueSql c b spec, rfl⟩⟩
    | index spec =>
      exact ⟨_, Compile.result_bind_eq_ok.mpr ⟨_, result_createIndexSql c b spec, rfl⟩⟩
    | fulltext spec =>
      exact ⟨_, Compile.result_bind_eq_ok.mpr ⟨_, spec.result_createFulltext c b.name, rfl⟩⟩
    | _ => cases h
  obtain ⟨texts, htexts⟩ := hok
  rw [htexts, text_markedCommand htexts]

/-- **A drop by name** names the object as far as it fits. -/
theorem result_commandSql_of_dropped (c : Config) (b : Blueprint) {command : SchemaCommand}
    {kind : IndexKind} {name : String} (h : command.dropped? = some (kind, ⟨some name, []⟩)) :
    (b.commandSql c command).result
      = .ok [kind.dropSql c b.name (shorten c.maxLength name)] := by
  have hsingle {x : Compile String} {sql : String} (hx : x.result = .ok sql) :
      (x >>= fun sql => pure [sql]).result = .ok [sql] :=
    Compile.result_bind_eq_ok.mpr ⟨_, hx, rfl⟩
  have hname (before : String) (kind : IndexKind) :
      (specName c b.name kind ⟨some name, []⟩ >>= fun n => pure (before ++ n)).result
        = .ok (before ++ shorten c.maxLength name) :=
    Compile.result_bind_eq_ok.mpr ⟨_, result_specName c b.name kind ⟨some name, []⟩, rfl⟩
  cases command with
  | dropPrimary spec | dropUnique spec | dropForeign spec =>
    cases h
    exact hsingle (hname (alterTable c b.name ++ " drop constraint ") _)
  | dropIndex spec | dropFulltext spec =>
    cases h
    exact hsingle (hname "drop index " _)
  | _ => cases h

/-- **What a command makes stands in the plan.** -/
theorem exists_infix_markedPlan (c : Config) {b : Blueprint} {command : SchemaCommand}
    (h : command ∈ b.allCommands) {m : MarkedSql} (hm : m ∈ b.making c command) :
    ∃ statement ∈ b.markedPlan c, m <:+: statement := by
  have hplan {command : SchemaCommand} {statement : MarkedSql} (hcommand : command ∈ b.allCommands)
      (hstatement : statement ∈ b.markedCommand c command) : statement ∈ b.markedPlan c := by
    refine List.mem_append_left _ (List.mem_append_left _ (List.mem_append_right _ ?_))
    exact List.mem_flatMap.mpr ⟨command, hcommand, hstatement⟩
  have hcreate {part : MarkedSql} (hcreating : b.isCreating = true)
      (hpart : part ∈ b.added.map (fun column => plain (column.definitionSql c))
        ++ (foreignKeys b.allCommands).map (ForeignKey.marked c b.name)
        ++ (primaryKey? b.allCommands).toList.map (IndexSpec.markedKey c b.name)) :
      ∃ statement ∈ b.markedPlan c, part <:+: statement := by
    have hmem : SchemaCommand.create ∈ b.allCommands := by
      have hcommands : SchemaCommand.create ∈ b.commands := by
        simpa [isCreating] using hcreating
      simp [allCommands, hcommands]
    refine ⟨b.markedCreate c, hplan hmem List.mem_cons_self, (infix_joined ", " hpart).trans ?_⟩
    exact ((List.suffix_cons _ _).isInfix).trans (List.prefix_append _ _).isInfix
  have hown (hm : m ∈ b.markedCommand c command) : ∃ statement ∈ b.markedPlan c, m <:+: statement :=
    ⟨m, hplan h hm, List.infix_rfl⟩
  cases command with
  | primary spec =>
    rw [making] at hm
    split at hm
    · next hcreating =>
      split at hm
      · next hkey =>
        rw [List.mem_singleton.mp hm]
        refine hcreate hcreating (List.mem_append_right _ ?_)
        rw [hkey]
        exact List.mem_cons_self
      · cases hm
    · exact hown hm
  | foreign key =>
    rw [making] at hm
    split at hm
    · next hcreating =>
      rw [List.mem_singleton.mp hm]
      refine hcreate hcreating (List.mem_append_left _ (List.mem_append_right _ ?_))
      exact List.mem_map_of_mem (List.mem_filterMap.mpr ⟨_, h, rfl⟩)
    · exact hown hm
  | _ => exact hown hm

/-! ### The names on both sides -/

/-- A full-text block names the indexes that it creates, and no preference among them. -/
theorem objects_markedFulltext (c : Config) (b : Blueprint) (spec : IndexSpec) :
    objects (b.markedFulltext c spec) = (spec.fulltextIndexes c b.name).map (·.name) := by
  have hcreate : announces "create index " = true := by decide
  have hdatastore : announces "datastore " = false := by decide
  have hindex (i : FulltextIndex) : objects (i.marked c b.name) = [i.name] := by
    delta FulltextIndex.marked
    cases i.datastore <;>
      simp only [objects, List.cons_append, List.nil_append, objectsFrom, hcreate, hdatastore,
        if_true, Bool.false_eq_true, if_false, List.append_nil]
  have hjoined := objects_joined (by decide : announces " " = false)
    ((spec.fulltextIndexes c b.name).map (FulltextIndex.marked c b.name))
  rw [markedFulltext, objects, objectsFrom_append, objectsFrom, List.append_nil, objectsFrom]
  refine hjoined.trans ?_
  rw [List.flatMap_map]
  simp only [hindex]
  exact List.map_eq_flatMap.symm

theorem announces_addConstraint (c : Config) (table : String) :
    announces (alterTable c table ++ " add constraint ") = true :=
  announces_append _ (by decide)

/-- A primary key stands in the statement that creates the table when it is the one that this is
created with, and beside that one it is not made. -/
theorem madeObjects_primary (c : Config) (b : Blueprint) (name : String) (columns : List String) :
    b.madeObjects c (.primary ⟨some name, columns⟩) =
      if b.isCreating = true ∧ primaryKey? b.allCommands ≠ some ⟨some name, columns⟩ then []
      else [shorten c.maxLength name] := by
  rw [madeObjects, making]
  by_cases hcreating : b.isCreating = true
  · rw [if_pos hcreating]
    by_cases hkey : primaryKey? b.allCommands = some ⟨some name, columns⟩
    · rw [if_pos hkey, if_neg fun hlost => hlost.2 hkey, List.flatMap_singleton]
      exact objects_named (by decide) _ _
    · rw [if_neg hkey, if_pos ⟨hcreating, hkey⟩]
      rfl
  · rw [if_neg hcreating, if_neg fun hlost => hcreating hlost.1, markedCommand, if_neg hcreating,
      List.flatMap_singleton]
    exact objects_named (announces_addConstraint c b.name) _ _

/-- A foreign key is made in the statement that creates the table, or in one of its own. -/
theorem madeObjects_foreign (c : Config) (b : Blueprint) {key : ForeignKey} {name : String}
    {columns : List String} (h : key.spec = ⟨some name, columns⟩) :
    b.madeObjects c (.foreign key) = [shorten c.maxLength name] := by
  have hkey (announced : Bool) :
      objectsFrom announced (key.marked c b.name) = [shorten c.maxLength name] := by
    rw [ForeignKey.marked, h]
    exact objects_named (by decide) _ _
  rw [madeObjects, making]
  split
  · rw [List.flatMap_singleton]
    exact hkey _
  · next hcreating =>
    rw [markedCommand, if_neg hcreating, List.flatMap_singleton, markedAddForeign, objects,
      objectsFrom]
    exact hkey _

/-- **What a command with a name of its own makes**, if it makes anything: an object of that name,
or the indexes of a full-text command. -/
theorem madeObjects_of_made {c : Config} {b : Blueprint} {command : SchemaCommand}
    {kind : IndexKind} {name : String} {columns : List String}
    (h : command.made? = some (kind, ⟨some name, columns⟩)) :
    b.madeObjects c command =
      match kind with
      | .fulltext => (IndexSpec.fulltextIndexes c b.name ⟨some name, columns⟩).map (·.name)
      | .primary =>
        if b.isCreating = true ∧ primaryKey? b.allCommands ≠ some ⟨some name, columns⟩ then []
        else [shorten c.maxLength name]
      | _ => [shorten c.maxLength name] := by
  have hsingle (m : MarkedSql) : [m].flatMap objects = objects m :=
    List.flatMap_singleton _ _
  cases command with
  | primary spec =>
    cases h
    exact madeObjects_primary c b name columns
  | foreign key =>
    obtain ⟨rfl, hspec⟩ := Prod.mk.inj (Option.some.inj h)
    exact madeObjects_foreign c b hspec
  | unique spec =>
    cases h
    exact (hsingle _).trans (objects_named (announces_addConstraint c b.name) _ _)
  | index spec =>
    cases h
    exact (hsingle _).trans (objects_named (by decide) _ _)
  | fulltext spec =>
    cases h
    exact (hsingle _).trans (objects_markedFulltext c b _)
  | _ => cases h

/-- A full-text command on one column makes an index of its name, and one on several columns makes
indexes of other names. -/
theorem names_fulltextIndexes_iff (c : Config) (table name : String) {columns : List String}
    (hcolumns : columns ≠ []) :
    (∀ object, object ∈ (IndexSpec.fulltextIndexes c table ⟨some name, columns⟩).map (·.name) ↔
      object = shorten c.maxLength name) ↔ columns.length = 1 := by
  constructor
  · intro h
    by_contra hlength
    have hpos := List.length_pos_iff.mpr hcolumns
    have hmulti : IndexSpec.isMultiColumn ⟨some name, columns⟩ = true :=
      decide_eq_true (by change 1 < columns.length; omega)
    have hsubset : (IndexSpec.fulltextIndexes c table ⟨some name, columns⟩).map (·.name)
        ⊆ [shorten c.maxLength name] := fun object hobject =>
      List.mem_singleton.mpr ((h object).mp hobject)
    have hle := (List.subperm_of_subset (IndexSpec.nodup_fulltextIndexes hmulti c table)
      hsubset).length_le
    have hcount : _ = columns.length := congrArg List.length
      (IndexSpec.columns_fulltextIndexes c table ⟨some name, columns⟩)
    rw [List.length_map] at hle hcount
    rw [List.length_singleton] at hle
    omega
  · intro hlength object
    obtain ⟨column, rfl⟩ := List.length_eq_one_iff.mp hlength
    exact List.mem_singleton

/-- **When a drop by name undoes what has been made.**  For every configuration and every blueprint,
a command that makes an index or constraint with a name of its own on some columns is compiled, and
so is the command of the same kind that carries the name alone.  What is made stands in the plan,
and the drop names one object.  This is exactly what has been made, unless the command is a
full-text command on several columns, which makes other indexes, or a primary key beside the one
that the blueprint creates its table with, which is not made at all. -/
theorem dropped_by_name_iff (c : Config) (b d : Blueprint) {make unmake : SchemaCommand}
    {kind : IndexKind} {name : String} {columns : List String} (hcolumns : columns ≠ [])
    (hmake : make.made? = some (kind, ⟨some name, columns⟩))
    (hunmake : unmake.dropped? = some (kind, ⟨some name, []⟩)) :
    (b.commandSql c make).result = .ok ((b.markedCommand c make).map text) ∧
    (make ∈ b.allCommands →
      ∀ m ∈ b.making c make, ∃ statement ∈ b.markedPlan c, m <:+: statement) ∧
    (d.commandSql c unmake).result
      = .ok [kind.dropSql c d.name (shorten c.maxLength name)] ∧
    ((∀ object, object ∈ b.madeObjects c make ↔ object = shorten c.maxLength name) ↔
      (kind = .fulltext → columns.length = 1) ∧
      (kind = .primary → b.isCreating = true →
        primaryKey? b.allCommands = some ⟨some name, columns⟩)) := by
  refine ⟨result_commandSql_of_made c b (by rw [hmake]; rfl),
    fun h m hm => exists_infix_markedPlan c h hm, result_commandSql_of_dropped c d hunmake, ?_⟩
  rw [madeObjects_of_made hmake]
  have hsame : ∀ object, object ∈ [shorten c.maxLength name] ↔ object = shorten c.maxLength name :=
    fun _ => List.mem_singleton
  cases kind with
  | fulltext =>
    refine (names_fulltextIndexes_iff c b.name name hcolumns).trans ?_
    exact ⟨fun h => ⟨fun _ => h, nofun⟩, fun h => h.1 rfl⟩
  | primary =>
    dsimp only
    split
    · next hlost =>
      refine iff_of_false (fun h => ?_) fun h => hlost.2 (h.2 rfl hlost.1)
      exact List.not_mem_nil ((h _).mpr rfl)
    · next hkept =>
      refine iff_of_true hsame ⟨nofun, fun _ hcreating => ?_⟩
      by_contra hkey
      exact hkept ⟨hcreating, hkey⟩
  | unique | index | foreign => exact iff_of_true hsame ⟨nofun, nofun⟩

/-- A foreign key of a new table, under a name that does not fit. -/
theorem dropped_by_name_memberships :
    let key : ForeignKey := ⟨some "customer_memberships_organisation_fk", ["organisation_id"],
      "organisations", ["id"], some "cascade"⟩
    let b : Blueprint :=
      { Blueprint.create "memberships" with
        columns := [Column.of "organisation_id" .integer]
        commands := [.create, .foreign key] }
    let d := (Blueprint.of "memberships").command (.dropForeign ⟨key.name, []⟩)
    (d.commandSql .standard (.dropForeign ⟨key.name, []⟩)).result
        = .ok ["alter table memberships drop constraint customer_membersh_organisat_fk"] ∧
      (∀ m ∈ b.making .standard (.foreign key), ∃ statement ∈ b.markedPlan .standard,
        m <:+: statement) ∧
      ∀ object, object ∈ b.madeObjects .standard (.foreign key) ↔
        object = "customer_membersh_organisat_fk" := by
  intro key b d
  have hmake : (SchemaCommand.foreign key).made?
      = some (.foreign, ⟨some "customer_memberships_organisation_fk", ["organisation_id"]⟩) := rfl
  have hunmake : (SchemaCommand.dropForeign ⟨key.name, []⟩).dropped?
      = some (.foreign, ⟨some "customer_memberships_organisation_fk", []⟩) := rfl
  obtain ⟨_, hplan, hdrop, hobjects⟩ :=
    dropped_by_name_iff .standard b d (List.cons_ne_nil _ _) hmake hunmake
  have hfit : shorten Config.standard.maxLength "customer_memberships_organisation_fk"
      = "customer_membersh_organisat_fk" := by decide +kernel
  rw [hfit] at hdrop hobjects
  have htable : IndexKind.dropSql .standard "memberships" "customer_membersh_organisat_fk" .foreign
      = "alter table memberships drop constraint customer_membersh_organisat_fk" := by
    decide +kernel
  exact ⟨htable ▸ hdrop, hplan (by decide +kernel), hobjects.mpr ⟨nofun, nofun⟩⟩

/-- **A full-text command on two columns is not undone by its name**: it makes two indexes, and the
drop names neither of them. -/
theorem fulltext_not_dropped_by_name :
    let b := Blueprint.of "articles"
    (b.commandSql .standard (.fulltext ⟨some "articles_ft", ["title", "body"]⟩)).result
        = .ok ["begin execute immediate 'create index articles_ft_0 on articles (title) "
          ++ "indextype is ctxsys.context "
          ++ "parameters (''datastore articles_ft_preference sync(on commit)'')'; "
          ++ "execute immediate 'create index articles_ft_1 on articles (body) "
          ++ "indextype is ctxsys.context "
          ++ "parameters (''datastore articles_ft_preference sync(on commit)'')'; end;"] ∧
      b.madeObjects .standard (.fulltext ⟨some "articles_ft", ["title", "body"]⟩)
        = ["articles_ft_0", "articles_ft_1"] ∧
      (b.commandSql .standard (.dropFulltext ⟨some "articles_ft", []⟩)).result
        = .ok ["drop index articles_ft"] := by
  decide +kernel

end Blueprint

end OracleSql
