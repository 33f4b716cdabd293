import OracleSql.Proofs.Identifier.Shortening
import OracleSql.Proofs.Schema.Accepted
import OracleSql.Proofs.Session.Owner
import OracleSql.Proofs.Session.Refusals
import OracleSql.Proofs.Text.Case

/-!
# The sequence and the trigger of a numbered column

The objects that number a column are named three times.  They are created under names made from the
table and the column; an insert that draws its key makes the name of the sequence again; and when
the table is dropped the names are made a third time, from the column that the data dictionary
reports in upper case and that is taken in lower case.  The names agree although they are shortened
afterwards, since shortening commutes with a change of case (`asciiLower_shorten`).

A plan is carried out until one of its statements fails, which is what `Executes` says.
-/

namespace OracleSql

open Identifier

/-! ### Names -/

namespace Identifier

/-- **Columns that differ in case within ASCII have objects whose names do.** -/
theorem asciiLower_columnObject (c : Config) (table suffix : String) {column column' : String}
    (h : Text.asciiLower column = Text.asciiLower column') :
    Text.asciiLower (columnObject c table column suffix)
      = Text.asciiLower (columnObject c table column' suffix) := by
  have hstem (name : String) : Text.asciiLower (objectStem c table name suffix)
      = Text.asciiLower (prefixedTable c table ++ "_") ++ Text.asciiLower name
        ++ Text.asciiLower ("_" ++ suffix) := by
    rw [← Text.asciiLower_append, ← Text.asciiLower_append, objectStem, ← String.append_assoc]
  rw [columnObject, columnObject, asciiLower_shorten, asciiLower_shorten, hstem, hstem, h]

end Identifier

/-! ### Executing one statement after another -/

def Statement.executeRequest (statement : Statement) : Request :=
  .execute statement.numberedSql statement.params

/-- **Statements are executed in turn, until one fails.** -/
inductive Executes : List Statement → List Exchange → Prop
  | done : Executes [] []
  | failed {statement : Statement} {rest : List Statement} {e : Exchange}
      (hrequest : e.request = statement.executeRequest) (hfails : e.succeeds = false) :
      Executes (statement :: rest) [e]
  | next {statement : Statement} {rest : List Statement} {e : Exchange} {es : List Exchange}
      (hrequest : e.request = statement.executeRequest) (hsucceeds : e.succeeds = true)
      (hrest : Executes rest es) : Executes (statement :: rest) (e :: es)

namespace Step

/-- Execute a statement, and forget how many rows it affects. -/
def carryOut (statement : Statement) : Step PUnit := do
  let _ ← execute statement

/-- A statement is one exchange, and carrying it out yields something when the exchange succeeds. -/
theorem carryOut_cases (statement : Statement) (s : Session) :
    ∃ e : Exchange, (carryOut statement s).exchanges = [e] ∧
      e.request = statement.executeRequest ∧
      ((e.succeeds = true ∧ (carryOut statement s).result = .ok ()) ∨
        (e.succeeds = false ∧ ∃ err, (carryOut statement s).result = .error err)) := by
  obtain ⟨reply, hexchange, hresult⟩ := ask_cases statement.executeRequest s
  have hexchanges := (bind_pure_apply (execute statement) (fun _ => PUnit.unit) s).1
  refine ⟨⟨statement.executeRequest, reply⟩, hexchanges.trans hexchange, rfl, ?_⟩
  cases reply with
  | ok n => exact Or.inl ⟨rfl, result_bind_of_ok (x := execute statement) hresult⟩
  | error f => exact Or.inr ⟨rfl, _, result_bind_of_error (x := execute statement) hresult⟩

theorem executes_forM (statements : List Statement) (s : Session) :
    Executes statements (statements.forM carryOut s).exchanges := by
  induction statements generalizing s with
  | nil => exact .done
  | cons statement rest ih =>
    obtain ⟨e, hexchange, hrequest, hcases⟩ := carryOut_cases statement s
    change Executes _ ((carryOut statement >>= fun _ => rest.forM carryOut) s).exchanges
    rcases hcases with ⟨hsucceeds, hresult⟩ | ⟨hfails, err, hresult⟩
    · rw [exchanges_bind_of_ok hresult, hexchange]
      exact .next hrequest hsucceeds (ih _)
    · rw [exchanges_bind_of_error hresult, hexchange]
      exact .failed hrequest hfails

end Step

/-! ### Dropping -/

/-- The column that an exchange reports: the text in the field `column_name` of the first row. -/
def Exchange.column? : Exchange → Option String
  | ⟨.fetch _ _, .ok rows⟩ => rows.head?.bind fun row => row.text? "column_name"
  | _ => none

/-- The statements that drop a table whose primary key is known. -/
def dropStatements (c : Config) (table sequence trigger : String) (ifExists : Bool) :
    List Statement :=
  [Statement.ofText (SequenceSpec.dropSql c sequence), Statement.ofText (TriggerSpec.dropSql c trigger),
    Preference.dropOfTable c table,
    Statement.ofText (if ifExists then dropTableIfExistsSql c table else dropTableSql c table)]

theorem result_dropPlan (c : Config) (table column : String) (ifExists : Bool) :
    (dropPlan c table (some column) ifExists).result
      = .ok (dropStatements c table (columnObject c table column "seq")
          (columnObject c table column "trg") ifExists) :=
  Compile.result_bind_eq_ok.mpr ⟨_, Numbering.result_dropSql c table column, rfl⟩

namespace Step

/-- Look the primary key up, and find the column in the answer. -/
theorem primaryKey_cases (table : String) (s : Session) :
    ∃ lookup : Exchange, (primaryKey table s).exchanges = [lookup] ∧
      lookup.request = (primaryKeyQuery s.config table).fetchRequest ∧
      (primaryKey table s).session.config = s.config ∧
      ∀ column, lookup.column? = some column →
        (primaryKey table s).result = .ok (some (Text.lower column)) := by
  obtain ⟨reply, hexchange, hresult⟩ := ask_cases (primaryKeyQuery s.config table).fetchRequest s
  have hstep : primaryKey table s = (fetch (primaryKeyQuery s.config table) >>= fun rows =>
      pure ((rows.head?.bind fun row => row.text? "column_name").map Text.lower)) s :=
    config_bind _ s
  obtain ⟨hexchanges, hsession⟩ := bind_pure_apply (fetch (primaryKeyQuery s.config table))
    (fun rows => (rows.head?.bind fun row => row.text? "column_name").map Text.lower) s
  refine ⟨⟨(primaryKeyQuery s.config table).fetchRequest, reply⟩, ?_, rfl, ?_, ?_⟩
  · rw [hstep, hexchanges]
    exact hexchange
  · rw [hstep, hsession]
    rfl
  · intro column hcolumn
    cases reply with
    | error f => cases hcolumn
    | ok rows =>
      have hcolumn : ((show List Row from rows).head?.bind fun row => row.text? "column_name")
        = some column := hcolumn
      have hresult : (fetch (primaryKeyQuery s.config table) s).result = .ok rows := hresult
      rw [hstep, result_bind_of_ok hresult, hcolumn]
      rfl

/-- **What is dropped with a table** whose primary key is reported. -/
theorem drop_cases (table : String) (ifExists : Bool) (s : Session) :
    ∃ lookup rest, (drop table ifExists s).exchanges = lookup :: rest ∧
      lookup.request = (primaryKeyQuery s.config table).fetchRequest ∧
      ∀ column, lookup.column? = some column →
        Executes (dropStatements s.config table
          (columnObject s.config table (Text.lower column) "seq")
          (columnObject s.config table (Text.lower column) "trg") ifExists) rest := by
  obtain ⟨lookup, hexchanges, hrequest, hconfig, hkey⟩ := primaryKey_cases table s
  cases hresult : (primaryKey table s).result with
  | error e =>
    refine ⟨lookup, [], ?_, hrequest, fun column hcolumn => ?_⟩
    · rw [drop, exchanges_bind_of_error hresult, hexchanges]
    · cases hresult.symm.trans (hkey column hcolumn)
  | ok key =>
    rw [drop, exchanges_bind_of_ok hresult, hexchanges]
    refine ⟨lookup, _, rfl, hrequest, fun column hcolumn => ?_⟩
    cases hresult.symm.trans (hkey column hcolumn)
    generalize hafter : (primaryKey table s).session = after at hconfig
    have hstatements : ((config >>= fun c =>
        ofCompile (dropPlan c table (some (Text.lower column)) ifExists) >>= fun statements =>
          statements.forM carryOut) after).exchanges = _ :=
      exchanges_configured_of_ok (result_dropPlan _ table (Text.lower column) ifExists)
    rw [← hconfig]
    exact hstatements ▸ executes_forM _ _

/-! ### Inserting -/

theorem exchanges_prefix_bind {α β : Type} (x : Step α) (f : α → Step β) (s : Session) :
    (x s).exchanges <+: ((x >>= f) s).exchanges := by
  cases h : (x s).result with
  | error e => exact ⟨[], by rw [exchanges_bind_of_error h, List.append_nil]⟩
  | ok a => exact ⟨_, (exchanges_bind_of_ok h).symm⟩

/-- **An insert that draws its key draws it first**, from the sequence of its key column when it
names no other. -/
theorem insertGetId_draws {i : Insert} (hdraws : drawsKey i = true) (hname : i.sequenceName = none)
    (s : Session) :
    ∃ draw rest, (insertGetId i s).exchanges = draw :: rest ∧
      draw.request = (Statement.ofText (SequenceSpec.nextSql s.config
        (columnObject s.config i.table i.keyColumn "seq"))).fetchRequest := by
  have hsequence : (keySequence s.config i).result
      = .ok (columnObject s.config i.table i.keyColumn "seq") := by
    rw [keySequence, hname]
    exact result_sequenceName _ _ _
  generalize columnObject s.config i.table i.keyColumn "seq" = name at hsequence ⊢
  let query := Statement.ofText (SequenceSpec.nextSql s.config name)
  have hdraw : (fetch query s).exchanges <+: (nextNumber name s).exchanges := by
    rw [nextNumber, config_bind]
    exact exchanges_prefix_bind _ _ s
  have hassign : (nextNumber name s).exchanges <+: (assignKey i s).exchanges := by
    have hdrawn : (assignKey i s).exchanges
        = ((nextNumber name >>= fun n => pure (i.withKey n)) s).exchanges := by
      rw [assignKey_of_drawsKey hdraws]
      exact exchanges_configured_of_ok hsequence
    rw [hdrawn]
    exact exchanges_prefix_bind _ _ s
  have hinsert : (assignKey i s).exchanges <+: (insertGetId i s).exchanges :=
    exchanges_prefix_bind _ _ s
  obtain ⟨reply, hexchange, _⟩ := ask_cases query.fetchRequest s
  obtain ⟨rest, hrest⟩ := (hdraw.trans hassign).trans hinsert
  refine ⟨⟨query.fetchRequest, reply⟩, rest, ?_, rfl⟩
  rw [← hrest]
  exact congrArg (· ++ rest) hexchange

end Step

/-! ### The names agree -/

/-- **Creating, inserting and dropping name the same objects**, whatever the configuration, the
table and the shortening are.  The names are those of the sequence and of the trigger that are
created for the numbered column of a table.  When the data dictionary reports the primary key in
upper case, the objects dropped with the table have these names but for the case; and an insert
that draws its key, and names no sequence, draws it from this one. -/
theorem numbering_names_agree (c : Config) (table column : String) (hascii : Text.IsAscii column) :
    (∀ (b : Blueprint) (numbered : Column) (statements : List String),
      b.name = table → b.serial? = some numbered → numbered.name = column →
      (b.plan c).result = .ok statements →
        ∃ n : Numbering, [n.sequence.createSql c, n.trigger.createSql c] <:+ statements ∧
          n.sequence.name = columnObject c table column "seq" ∧
          n.trigger = ⟨columnObject c table column "trg", table, column,
            columnObject c table column "seq"⟩) ∧
    (∀ (s : Session) (ifExists : Bool) (command : Command), s.config = c →
      command = (if ifExists then .dropIfExists table else .drop table) →
        ∃ lookup rest, (command.step s).exchanges = lookup :: rest ∧
          lookup.request = (primaryKeyQuery c table).fetchRequest ∧
          (lookup.column? = some (Text.upper column) →
            ∃ sequence trigger,
              Text.sameIgnoringCase sequence (columnObject c table column "seq") = true ∧
              Text.sameIgnoringCase trigger (columnObject c table column "trg") = true ∧
              Executes (dropStatements c table sequence trigger ifExists) rest)) ∧
    ∀ (s : Session) (i : Insert), s.config = c → i.table = table → i.keyColumn = column →
      i.sequenceName = none → Step.drawsKey i = true →
        ∃ draw rest, ((Command.insertGetId i).step s).exchanges = draw :: rest ∧
          draw.request = (Statement.ofText (SequenceSpec.nextSql c
            (columnObject c table column "seq"))).fetchRequest := by
  refine ⟨?_, ?_, ?_⟩
  · intro b numbered statements hname hserial hnumbered hplan
    obtain ⟨_, _, numbering, _, _, hnumbering, rfl⟩ := Blueprint.plan_eq_ok.mp hplan
    rw [Numbering.result_ofBlueprint, hserial] at hnumbering
    cases hnumbering
    refine ⟨Numbering.ofColumn c b.name numbered, List.suffix_append _ _, ?_, ?_⟩
    · rw [← hname, ← hnumbered]
      rfl
    · rw [← hname, ← hnumbered]
      rfl
  · rintro s ifExists command rfl rfl
    obtain ⟨lookup, rest, hexchanges, hrequest, hrest⟩ := Step.drop_cases table ifExists s
    refine ⟨lookup, rest, ?_, hrequest, fun hcolumn => ⟨_, _, ?_, ?_, hrest _ hcolumn⟩⟩
    · rw [← hexchanges]
      cases ifExists with
      | false => exact (Step.bind_pure_apply _ _ s).1
      | true => exact (Step.bind_pure_apply _ _ s).1
    all_goals
      refine Text.sameIgnoringCase_iff.mpr (asciiLower_columnObject _ _ _ ?_)
      rw [Text.asciiLower_lower_of_isAscii (Text.isAscii_upper hascii),
        Text.asciiLower_upper_of_isAscii hascii]
  · rintro s i rfl rfl rfl hsequence hdraws
    obtain ⟨draw, rest, hexchanges, hrequest⟩ := Step.insertGetId_draws hdraws hsequence s
    exact ⟨draw, rest, (Step.bind_pure_apply _ _ s).1.trans hexchanges, hrequest⟩

/-- A table is dropped whose names are shortened. -/
theorem numbering_names_agree_shortened :
    let c : Config := { Config.standard with tablePrefix := "app_" }
    let script : Script :=
      { Script.empty with rows := [.ok [[("COLUMN_NAME", .text "ENTRY_NUMBER")]]] }
    Text.IsAscii "Entry_Number" ∧
      ∃ lookup rest sequence trigger,
        ((Command.drop "hr.customer_account_histories").step (.start c script)).exchanges
          = lookup :: rest ∧
        Text.sameIgnoringCase sequence "app_cus_acc_hist_Entr_Numb_seq" = true ∧
        Text.sameIgnoringCase trigger "app_cus_acc_hist_Entr_Numb_trg" = true ∧
        Executes (dropStatements c "hr.customer_account_histories" sequence trigger false) rest := by
  intro c script
  have hascii : Text.IsAscii "Entry_Number" := by decide
  obtain ⟨lookup, rest, hexchanges, _, hdropped⟩ :=
    (numbering_names_agree c "hr.customer_account_histories" "Entry_Number" hascii).2.1
      (.start c script) false (.drop "hr.customer_account_histories") rfl rfl
  have hcolumn : lookup.column? = some (Text.upper "Entry_Number") := by
    have hfirst : (((Command.drop "hr.customer_account_histories").step
        (.start c script)).exchanges.head?.bind Exchange.column?)
          = some (Text.upper "Entry_Number") := by decide +kernel
    rw [hexchanges] at hfirst
    exact hfirst
  obtain ⟨sequence, trigger, hsequence, htrigger, hrest⟩ := hdropped hcolumn
  have hsequenceName : columnObject c "hr.customer_account_histories" "Entry_Number" "seq"
      = "app_cus_acc_hist_Entr_Numb_seq" := by decide +kernel
  have htriggerName : columnObject c "hr.customer_account_histories" "Entry_Number" "trg"
      = "app_cus_acc_hist_Entr_Numb_trg" := by decide +kernel
  rw [hsequenceName] at hsequence
  rw [htriggerName] at htrigger
  exact ⟨hascii, lookup, rest, sequence, trigger, hexchanges, hsequence, htrigger, hrest⟩

end OracleSql
