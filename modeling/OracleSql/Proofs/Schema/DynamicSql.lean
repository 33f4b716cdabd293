import Mathlib.Algebra.Order.BigOperators.Group.List
import OracleSql.Proofs.Identifier.Quotes
import OracleSql.Proofs.Schema.FullTextNames
import OracleSql.Schema.Sequence
import OracleSql.Schema.Table

/-!
# Statements that a block runs

A drop that passes over a missing object, and the creation of full-text indexes, are blocks that run
other statements from literals.  The text of a statement is put between the quotes as it stands, so
the block runs that statement only when no name in it holds a quote.  Then it does, for each of the
blocks (`dynamic_sql_iff`).

A full-text statement has a literal of its own, and its quotes have been doubled in advance
(`FulltextIndex.sql_eq_double`).
-/

namespace OracleSql

open Identifier

/-! ### One statement in a block -/

theorem literals?_dropTable_iff (c : Config) (table : String) :
    literals? (dropTableIfExistsSql c table) = some [dropTableSql c table] ↔
      ∀ s ∈ tableSources c table, QuoteFree s := by
  have hopen : "begin execute immediate '" = "begin execute immediate " ++ "'" := by decide
  have hclose : "'; exception when others then null; end;"
      = "'" ++ "; exception when others then null; end;" := by decide
  have henclosed := literals?_enclosed_iff hopen hclose (by decide) (by decide) (by decide)
    (dropTableSql c table)
  rw [← quoteFree_wrapTable_iff]
  refine henclosed.trans ?_
  rw [dropTableSql, quoteFree_append]
  exact and_iff_right (by decide)

theorem literals?_dropBlock_iff {code : String} (hcode : Unquoted code) (statement : String) :
    literals? (dropBlock code statement) = some [statement] ↔ QuoteFree statement := by
  have hopen : "declare e exception; pragma exception_init(e," ++ code
        ++ "); begin execute immediate '"
      = "declare e exception; pragma exception_init(e," ++ code ++ "); begin execute immediate "
        ++ "'" := by
    simp only [String.append_assoc]
    rfl
  have hclose : "'; exception when e then null; end;"
      = "'" ++ "; exception when e then null; end;" := by decide
  refine literals?_enclosed_iff hopen hclose ?_ (by decide) (by decide) _
  exact unquoted_append.mpr ⟨unquoted_append.mpr ⟨by decide, hcode⟩, by decide⟩

theorem literals?_dropObject_iff {code verb : String} (hcode : Unquoted code) (hverb : QuoteFree verb)
    (c : Config) (name : String) :
    literals? (dropBlock code (verb ++ qualify c name)) = some [verb ++ qualify c name] ↔
      ∀ s ∈ name :: c.schemaPrefix.toList, QuoteFree s := by
  rw [literals?_dropBlock_iff hcode, quoteFree_append, and_iff_right hverb, quoteFree_qualify_iff]

/-! ### The statements of full-text indexes -/

namespace FulltextIndex

variable (c : Config) (table : String)

/-- **The statement of a full-text index**, as it is run. -/
def statement (i : FulltextIndex) : String :=
  "create index " ++ i.name ++ " on " ++ wrapTable c table ++ " (" ++ wrap c i.column
    ++ ") indextype is ctxsys.context parameters ('"
    ++ (match i.datastore with
        | some preference => "datastore " ++ preference ++ " "
        | none => "")
    ++ "sync(on commit)')"

/-- The statement before its literal. -/
def head (i : FulltextIndex) : String :=
  "create index " ++ i.name ++ " on " ++ wrapTable c table ++ " (" ++ wrap c i.column
    ++ ") indextype is ctxsys.context parameters ("

/-- What stands in the literal of the statement. -/
def parameters (i : FulltextIndex) : String :=
  (match i.datastore with
    | some preference => "datastore " ++ preference ++ " "
    | none => "") ++ "sync(on commit)"

theorem statement_eq (i : FulltextIndex) :
    i.statement c table = i.head c table ++ "'" ++ i.parameters ++ "')" := by
  have hopen : ") indextype is ctxsys.context parameters ('"
      = ") indextype is ctxsys.context parameters (" ++ "'" := by decide
  have hclose : "sync(on commit)')" = "sync(on commit)" ++ "')" := by decide
  -- The equation of a definition that is a long chain of appends is slow to make.
  delta statement head parameters
  rw [hopen, hclose]
  cases i.datastore <;> simp only [String.append_assoc]

theorem sql_eq (i : FulltextIndex) :
    i.sql c table = i.head c table ++ "''" ++ i.parameters ++ "'')" := by
  have hopen : ") indextype is ctxsys.context parameters (''"
      = ") indextype is ctxsys.context parameters (" ++ "''" := by decide
  have hclose : "sync(on commit)'')" = "sync(on commit)" ++ "'')" := by decide
  delta sql head parameters
  rw [hopen, hclose]
  cases i.datastore <;> simp only [String.append_assoc]

/-- Whether the names in a statement hold no quotes. -/
def NamesQuoteFree (i : FulltextIndex) : Prop :=
  QuoteFree (i.head c table) ∧ QuoteFree i.parameters

variable {c table}

/-- **The quotes of the statement are doubled**, and those of its names are not. -/
theorem sql_eq_double {i : FulltextIndex} (h : i.NamesQuoteFree c table) :
    i.sql c table = Text.double '\'' (i.statement c table) := by
  have hhead := doubled_eq_self h.1
  have hparameters := doubled_eq_self h.2
  rw [← String.toList_inj, sql_eq, statement_eq, Text.double]
  simp only [String.toList_append, String.toList_ofList, Text.doubled_append, hhead, hparameters]
  rfl

theorem namesQuoteFree_iff {i : FulltextIndex} :
    i.NamesQuoteFree c table ↔
      QuoteFree (wrap c i.column) ∧ QuoteFree i.name ∧ (∀ s ∈ i.datastore, QuoteFree s) ∧
        QuoteFree (wrapTable c table) := by
  have hparameters : QuoteFree i.parameters ↔ ∀ s ∈ i.datastore, QuoteFree s := by
    rw [parameters, quoteFree_append, and_iff_left (by decide : QuoteFree "sync(on commit)")]
    cases i.datastore with
    | none => exact iff_of_true (by decide) nofun
    | some preference =>
      simp only [quoteFree_append, Option.mem_some_iff, forall_eq']
      exact (and_iff_left (by decide)).trans (and_iff_right (by decide))
  rw [NamesQuoteFree, hparameters]
  delta head
  simp only [quoteFree_append, (by decide : QuoteFree "create index "),
    (by decide : QuoteFree " on "), (by decide : QuoteFree " ("),
    (by decide : QuoteFree ") indextype is ctxsys.context parameters ("), true_and, and_true]
  constructor
  · rintro ⟨⟨⟨hname, htable⟩, hcolumn⟩, hdatastore⟩
    exact ⟨hcolumn, hname, hdatastore, htable⟩
  · rintro ⟨hcolumn, hname, hdatastore, htable⟩
    exact ⟨⟨⟨hname, htable⟩, hcolumn⟩, hdatastore⟩

theorem quotes_statement (i : FulltextIndex) :
    quotes (i.statement c table) = quotes (i.head c table) + quotes i.parameters + 2 := by
  have hopen : quotes "'" = 1 := by decide
  have hclose : quotes "')" = 1 := by decide
  rw [statement_eq, quotes_append, quotes_append, quotes_append, hopen, hclose]
  omega

theorem quotes_sql (i : FulltextIndex) :
    quotes (i.sql c table) = quotes (i.head c table) + quotes i.parameters + 4 := by
  have hopen : quotes "''" = 2 := by decide
  have hclose : quotes "'')" = 2 := by decide
  rw [sql_eq, quotes_append, quotes_append, quotes_append, hopen, hclose]
  omega

end FulltextIndex

theorem FulltextIndex.reads_clause {c : Config} {table : String} {i : FulltextIndex}
    (h : i.NamesQuoteFree c table) :
    Reads ("execute immediate '" ++ i.sql c table ++ "';") [i.statement c table] := by
  have hclause : "execute immediate '" ++ i.sql c table ++ "';"
      = "execute immediate " ++ quote (i.statement c table) ++ ";" := by
    have hopen : "execute immediate '" = "execute immediate " ++ "'" := by decide
    have hclose : "';" = "'" ++ ";" := by decide
    rw [sql_eq_double h, quote, hopen, hclose]
    simp only [String.append_assoc]
  rw [hclause]
  exact Reads.enclose (by decide) (by decide) (by decide) _

/-- **A block runs the statements of its indexes exactly when no name in them holds a quote.** -/
theorem literals?_fulltextBlock_iff (c : Config) (table : String) (indexes : List FulltextIndex) :
    literals? (IndexSpec.fulltextBlock c table indexes)
        = some (indexes.map (·.statement c table)) ↔
      ∀ i ∈ indexes, i.NamesQuoteFree c table := by
  constructor
  · intro h
    have hsum := sum_quotes_le h
    have hbegin : quotes "begin " = 0 := by decide
    have hend : quotes " end;" = 0 := by decide
    have hopen : quotes "execute immediate '" = 1 := by decide
    have hclose : quotes "';" = 1 := by decide
    rw [IndexSpec.fulltextBlock, quotes_append, quotes_append, quotes_intercalate (by decide),
      hbegin, hend, List.map_map, List.map_map, Nat.zero_add, Nat.add_zero] at hsum
    intro i hi
    rw [FulltextIndex.NamesQuoteFree, ← quotes_eq_zero, ← quotes_eq_zero, ← Nat.add_eq_zero_iff]
    -- One quote too many in a name outweighs: each clause has at most the quotes of its literal.
    by_contra hne
    refine Nat.not_lt.mpr hsum (List.sum_lt_sum _ _ (fun j _ => ?_) ⟨i, hi, ?_⟩) <;>
      · simp only [Function.comp_apply, quotes_append, hopen, hclose,
          FulltextIndex.quotes_statement, FulltextIndex.quotes_sql]
        omega
  · intro h
    have hclauses : Reads (" ".intercalate (indexes.map fun i =>
        "execute immediate '" ++ i.sql c table ++ "';")) (indexes.map (·.statement c table)) :=
      Reads.intercalate (by decide) fun i hi => FulltextIndex.reads_clause (h i hi)
    have hblock := ((Reads.of_unquoted (by decide : Unquoted "begin ")).append hclauses).append
      (Reads.of_unquoted (by decide : Unquoted " end;"))
    rw [List.nil_append, List.append_nil] at hblock
    exact hblock.literals?_eq

/-! ### The names in full-text statements -/

theorem quoteFree_numberedName {base : String} {n : Nat} :
    QuoteFree (numberedName base n) ↔ QuoteFree base := by
  have hnumber : QuoteFree (toString n) := fun h =>
    absurd (Text.isDigit_of_mem_toString h) (by decide)
  rw [numberedName, quoteFree_append, quoteFree_append, and_iff_left hnumber]
  exact and_iff_left (by decide)

theorem quoteFree_preferenceName {base : String} :
    QuoteFree (preferenceName base) ↔ QuoteFree base := by
  rw [preferenceName, quoteFree_append]
  exact and_iff_left (by decide)

namespace IndexSpec

variable (c : Config) (table : String) (spec : IndexSpec)

/-- The texts from which the statement of a full-text index is written. -/
def fulltextSources (column : String) : List String :=
  column :: spec.base c table :: tableSources c table

theorem namesQuoteFree_fulltextIndex (column : String) (n : Nat) :
    (spec.fulltextIndex c table column n).NamesQuoteFree c table ↔
      ∀ s ∈ spec.fulltextSources c table column, QuoteFree s := by
  have hnames : QuoteFree (spec.fulltextIndex c table column n).name ∧
        (∀ s ∈ (spec.fulltextIndex c table column n).datastore, QuoteFree s) ↔
      QuoteFree (spec.base c table) := by
    rw [fulltextIndex]
    split
    · simp only [Option.mem_some_iff, forall_eq', quoteFree_numberedName, preference,
        quoteFree_preferenceName, and_self]
    · exact and_iff_left fun s hs => absurd hs (Option.not_mem_none s)
  have hcolumn : (spec.fulltextIndex c table column n).column = column := by
    rw [fulltextIndex]
    split <;> rfl
  rw [FulltextIndex.namesQuoteFree_iff, hcolumn, fulltextSources, List.forall_mem_cons,
    List.forall_mem_cons, ← quoteFree_wrapTable_iff, ← and_assoc (b := ∀ s ∈ _, _), hnames]
  refine and_congr_left fun hothers => quoteFree_wrap_iff ?_
  exact quoteFree_wrapTable_iff.mp hothers.2 _ (List.mem_cons_of_mem _ List.mem_cons_self)

theorem namesQuoteFree_fulltextIndexes :
    (∀ i ∈ spec.fulltextIndexes c table, i.NamesQuoteFree c table) ↔
      ∀ column ∈ spec.columns, ∀ s ∈ spec.fulltextSources c table column, QuoteFree s := by
  rw [fulltextIndexes, List.forall_mem_map]
  simp only [namesQuoteFree_fulltextIndex]
  conv_rhs => rw [← List.zipIdx_map_fst 0 spec.columns]
  rw [List.forall_mem_map]

end IndexSpec

/-! ### All blocks -/

/-- **What a block runs.**  For every configuration, every table, every name of a sequence or
trigger and every full-text command, each block has one literal for each statement that it is to
run, with exactly that statement in it, if and only if no text that the statement is written from
holds a single quote. -/
theorem dynamic_sql_iff (c : Config) (table name : String) (spec : IndexSpec) :
    (literals? (dropTableIfExistsSql c table) = some [dropTableSql c table] ↔
      ∀ s ∈ tableSources c table, QuoteFree s) ∧
    (literals? (SequenceSpec.dropSql c name) = some ["drop sequence " ++ qualify c name] ↔
      ∀ s ∈ name :: c.schemaPrefix.toList, QuoteFree s) ∧
    (literals? (TriggerSpec.dropSql c name) = some ["drop trigger " ++ qualify c name] ↔
      ∀ s ∈ name :: c.schemaPrefix.toList, QuoteFree s) ∧
    ∃ block, (spec.createFulltext c table).result = .ok block ∧
      (literals? block = some ((spec.fulltextIndexes c table).map (·.statement c table)) ↔
        ∀ column ∈ spec.columns, ∀ s ∈ spec.fulltextSources c table column, QuoteFree s) := by
  refine ⟨literals?_dropTable_iff c table, ?_, ?_, _, spec.result_createFulltext c table, ?_⟩
  · exact literals?_dropObject_iff (by decide) (by decide) c name
  · exact literals?_dropObject_iff (by decide) (by decide) c name
  · exact (literals?_fulltextBlock_iff c table _).trans
      (spec.namesQuoteFree_fulltextIndexes c table)

/-- **A name can end the literal it is placed in**: the rest of the block is then no text, and a
name can bring a statement of its own. -/
theorem dropTable_quote_ends_literal :
    literals? (dropTableIfExistsSql Config.standard "o'brien")
        ≠ some [dropTableSql Config.standard "o'brien"] ∧
      literals? (dropTableIfExistsSql Config.standard "t'; execute immediate 'drop user hr")
        = some ["drop table t", "drop user hr"] := by
  decide +kernel

end OracleSql
