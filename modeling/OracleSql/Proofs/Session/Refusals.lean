import OracleSql.Proofs.Session.Exchanges
import OracleSql.Proofs.Write.Accepted
import OracleSql.Session.Command

/-!
# A description is refused before anything is asked

A step that ends with an error of compilation has asked nothing of the database
(`run_refuses_before_asking`).  Most steps compile first and then never refuse.  The exception is
an insert that draws its key: the sequence is asked before the insert is compiled, and what makes
up for it is that an insert with a drawn key cannot be refused any more
(`exists_compileGetId_drawn`, `exists_compileBlobs_drawn`).

`NeverRefuses` and `RefusesFirst` are closed under the operations that steps are made of, so that
each step is checked along its definition.
-/

namespace OracleSql

namespace Step

variable {α β : Type}

/-- A step that asks nothing of the database, however it ends. -/
def AsksNothing (x : Step α) : Prop :=
  ∀ s, (x s).exchanges = []

/-- A step that never ends with an error of compilation. -/
def NeverRefuses (x : Step α) : Prop :=
  ∀ s e, (x s).result = .error e → e.isCompile = false

/-- A step that has asked nothing when it ends with an error of compilation. -/
def RefusesFirst (x : Step α) : Prop :=
  ∀ s e, (x s).result = .error e → e.isCompile = true → (x s).exchanges = []

/-! ### Steps that never refuse -/

namespace NeverRefuses

theorem pure (a : α) : NeverRefuses (Pure.pure a : Step α) :=
  fun _ _ h => by cases h

theorem configuration : NeverRefuses Step.config :=
  fun _ _ h => by cases h

theorem fail {e : Error} (h : e.isCompile = false) : NeverRefuses (Step.fail e : Step α) :=
  fun _ _ he => by cases he; exact h

theorem ofCompile {x : Compile α} (h : ∃ a, x.result = .ok a) :
    NeverRefuses (Step.ofCompile x) := by
  intro s e he
  obtain ⟨a, ha⟩ := h
  rw [Step.ofCompile, ha] at he
  cases he

/-- The errors of a connection are not those of compilation. -/
theorem ask (r : Request) : NeverRefuses (Step.ask r) := by
  intro s e he
  obtain ⟨reply, _, hresult⟩ := ask_cases r s
  rw [hresult] at he
  cases reply with
  | ok a => cases he
  | error f =>
    cases he
    exact f.isCompile_error

/-- What follows has to be checked for what can come before only. -/
theorem bind {x : Step α} {f : α → Step β} (hx : NeverRefuses x)
    (hf : ∀ s a, (x s).result = .ok a → NeverRefuses (f a)) : NeverRefuses (x >>= f) := by
  intro s e he
  cases h : (x s).result with
  | error e' =>
    rw [result_bind_of_error h] at he
    cases he
    exact hx s e h
  | ok a =>
    rw [result_bind_of_ok h] at he
    exact hf s a h _ e he

theorem attempt (x : Step α) : NeverRefuses (Step.attempt x) :=
  fun _ _ h => by cases h

theorem forM {f : α → Step PUnit} (hf : ∀ a, NeverRefuses (f a)) (xs : List α) :
    NeverRefuses (xs.forM f) := by
  induction xs with
  | nil => exact pure _
  | cons a rest ih => exact (hf a).bind fun _ _ _ => ih

theorem rollBack {cause : Error} (h : cause.isCompile = false) :
    NeverRefuses (Step.rollBack cause : Step α) := by
  intro s e he
  obtain ⟨_, _, hresult⟩ := rollBack_cases (α := α) cause s
  rw [hresult] at he
  cases he
  exact h

theorem transaction {body : Step α} (h : NeverRefuses body) :
    NeverRefuses (Step.transaction body) := by
  refine (ask _).bind fun _ _ _ => (attempt body).bind fun s result hresult => ?_
  cases result with
  | ok a => exact (ask _).bind fun _ _ _ => pure a
  | error e =>
    rw [attempt_apply] at hresult
    exact rollBack (h s e (Except.ok.inj hresult))

theorem execute (statement : Statement) : NeverRefuses (Step.execute statement) := ask _

theorem executeSql (sql : String) : NeverRefuses (Step.executeSql sql) := ask _

theorem fetch (statement : Statement) : NeverRefuses (Step.fetch statement) := ask _

theorem executeReturning (statement : Statement) :
    NeverRefuses (Step.executeReturning statement) := ask _

end NeverRefuses

/-! ### Steps that refuse first -/

namespace RefusesFirst

theorem of_neverRefuses {x : Step α} (h : NeverRefuses x) : RefusesFirst x := by
  intro s e he hcompile
  rw [h s e he] at hcompile
  cases hcompile

theorem of_asksNothing {x : Step α} (h : AsksNothing x) : RefusesFirst x :=
  fun s _ _ _ => h s

/-- A step that refuses first may be followed by one that never refuses. -/
theorem bind {x : Step α} {f : α → Step β} (hx : RefusesFirst x)
    (hf : ∀ s a, (x s).result = .ok a → NeverRefuses (f a)) : RefusesFirst (x >>= f) := by
  intro s e he hcompile
  cases h : (x s).result with
  | error e' =>
    rw [result_bind_of_error h] at he
    cases he
    rw [exchanges_bind_of_error h]
    exact hx s e h hcompile
  | ok a =>
    rw [result_bind_of_ok h] at he
    rw [hf s a h _ e he] at hcompile
    cases hcompile

theorem bind_of_asksNothing {x : Step α} {f : α → Step β} (hx : AsksNothing x)
    (hf : ∀ a, RefusesFirst (f a)) : RefusesFirst (x >>= f) := by
  intro s e he hcompile
  cases h : (x s).result with
  | error e' => rw [exchanges_bind_of_error h, hx]
  | ok a =>
    rw [result_bind_of_ok h] at he
    rw [exchanges_bind_of_ok h, hx, hf a _ e he hcompile, List.append_nil]

theorem wrapped {x : Step α} (hx : RefusesFirst x) (f : α → β) :
    RefusesFirst (x >>= fun a => Pure.pure (f a)) :=
  hx.bind fun _ _ _ => NeverRefuses.pure _

/-- **Compile first**, and then do what never refuses. -/
theorem compiled {x : Compile α} {f : α → Step β} (hf : ∀ a, NeverRefuses (f a)) :
    RefusesFirst (Step.ofCompile x >>= f) :=
  (of_asksNothing fun _ => rfl).bind fun _ a _ => hf a

theorem configured {compile : Config → Compile α} {f : α → Step β}
    (hf : ∀ a, NeverRefuses (f a)) :
    RefusesFirst (Step.config >>= fun c => Step.ofCompile (compile c) >>= f) :=
  bind_of_asksNothing (fun _ => rfl) fun _ => compiled hf

end RefusesFirst

end Step

/-! ### Inserts with a drawn key -/

/-- A row can always be arranged in the order of its own columns. -/
theorem exists_arrangeRow?_columns (row : RowValues) :
    ∃ values, arrangeRow? row.columns row = some values := by
  obtain ⟨values, hvalues⟩ := exists_mapM_value? fun _ h => exists_value?_of_mem_columns h
  exact ⟨values, by rw [arrangeRow?, if_pos (by simp [RowValues.columns]), hvalues]⟩

theorem exists_arrangeRows_singleton (row : RowValues) :
    ∃ values, (arrangeRows [row]).result = .ok (row.columns, [values]) := by
  obtain ⟨values, hvalues⟩ := exists_arrangeRow?_columns row
  refine ⟨values, arrangeRows_eq_ok.mpr ⟨row, [], rfl, rfl, ?_⟩⟩
  rw [arrange, hvalues]
  rfl

namespace Insert

def withKey (i : Insert) (n : Int64) : Insert :=
  { i with rows := i.rows.map (Step.putKey i.keyColumn n) }

theorem exists_rows_withKey {i : Insert} (hdraws : Step.drawsKey i = true) (n : Int64) :
    ∃ row, (i.withKey n).rows = [Step.putKey i.keyColumn n row] := by
  rw [Step.drawsKey, Bool.and_eq_true, Bool.and_eq_true, beq_iff_eq] at hdraws
  obtain ⟨row, hrow⟩ := List.length_eq_one_iff.mp hdraws.1.2
  exact ⟨row, by rw [withKey, hrow]; rfl⟩

theorem exists_plain_drawn (c : Config) {i : Insert} (hdraws : Step.drawsKey i = true)
    (n : Int64) : ∃ sql, ((i.withKey n).plain c).result = .ok sql := by
  obtain ⟨row, hrows⟩ := exists_rows_withKey hdraws n
  obtain ⟨values, hvalues⟩ := exists_arrangeRows_singleton (Step.putKey i.keyColumn n row)
  refine ⟨_, plain_eq_ok.mpr ⟨_, [values], by rw [hrows]; exact hvalues, ?_, rfl⟩⟩
  exact List.cons_ne_nil _ _

/-- **An insert with a drawn key is not refused.** -/
theorem exists_compileGetId_drawn (c : Config) {i : Insert} (hdraws : Step.drawsKey i = true)
    (n : Int64) : ∃ statement, ((i.withKey n).compileGetId c).result = .ok statement := by
  obtain ⟨row, hrows⟩ := exists_rows_withKey hdraws n
  obtain ⟨sql, hsql⟩ := exists_plain_drawn c hdraws n
  have hreturning := returningKey_eq_ok.mpr ⟨by rw [hrows]; exact Nat.le_refl 1, sql, hsql, rfl⟩
  exact ⟨_, Compile.result_bind_eq_ok.mpr ⟨_, hreturning, rfl⟩⟩

theorem exists_compileBlobs_drawn (c : Config) {i : Insert} (hdraws : Step.drawsKey i = true)
    (n : Int64) : ∃ statement, ((i.withKey n).compileBlobs c).result = .ok statement := by
  by_cases hbinary : i.binaryColumns = []
  · obtain ⟨statement, hstatement⟩ := exists_compileGetId_drawn c hdraws n
    exact ⟨statement, (compileBlobs_eq_ok_of_nil (i := i.withKey n) hbinary).mpr hstatement⟩
  · obtain ⟨row, hrows⟩ := exists_rows_withKey hdraws n
    obtain ⟨values, hvalues⟩ := exists_arrangeRows_singleton (Step.putKey i.keyColumn n row)
    have hrow : (blobRow (i.withKey n).rows).result
        = .ok ((Step.putKey i.keyColumn n row).columns, [values]) := by
      rw [hrows]
      exact hvalues
    exact ⟨_, (compileBlobs_eq_ok (i := i.withKey n) hbinary).mpr
      ⟨by rw [hrows]; exact Nat.le_refl 1, _, _, hrow, rfl⟩⟩

end Insert

namespace Step

variable {α β : Type}

/-! ### The steps of a session -/

theorem neverRefuses_sequenceNumber (sql : String) : NeverRefuses (sequenceNumber sql) := by
  refine (NeverRefuses.fetch _).bind fun _ rows _ => ?_
  split
  · exact NeverRefuses.pure _
  · exact NeverRefuses.fail rfl

theorem neverRefuses_nextNumber (name : String) : NeverRefuses (nextNumber name) :=
  NeverRefuses.configuration.bind fun _ _ _ => neverRefuses_sequenceNumber _

theorem neverRefuses_currentNumber (name : String) : NeverRefuses (currentNumber name) :=
  NeverRefuses.configuration.bind fun _ _ _ => neverRefuses_sequenceNumber _

theorem exists_keySequence (c : Config) (i : Insert) :
    ∃ name, (keySequence c i).result = .ok name := by
  rw [keySequence]
  cases i.sequenceName with
  | some name => exact ⟨name, rfl⟩
  | none => exact ⟨_, Identifier.result_shortened _ _⟩

theorem assignKey_of_drawsKey {i : Insert} (h : drawsKey i = true) :
    assignKey i = (config >>= fun c => ofCompile (keySequence c i) >>= fun name =>
      nextNumber name >>= fun n => pure (i.withKey n)) := by
  rw [assignKey, if_pos h]
  rfl

theorem assignKey_of_not_drawsKey {i : Insert} (h : drawsKey i = false) :
    assignKey i = pure i := by
  rw [assignKey, if_neg (by rw [h]; exact Bool.false_ne_true)]

/-- **Give an insert its key and go on.**  When no key is drawn the step that follows may refuse
first; when one is drawn it has to go through for the insert with the key. -/
theorem refusesFirst_assignKey_bind {i : Insert} {f : Insert → Step β}
    (hgiven : RefusesFirst (f i))
    (hdrawn : drawsKey i = true → ∀ n, NeverRefuses (f (i.withKey n))) :
    RefusesFirst (assignKey i >>= f) := by
  cases hdraws : drawsKey i with
  | false =>
    rw [assignKey_of_not_drawsKey hdraws, pure_bind]
    exact hgiven
  | true =>
    rw [assignKey_of_drawsKey hdraws]
    simp only [bind_assoc, pure_bind]
    refine RefusesFirst.of_neverRefuses ?_
    refine NeverRefuses.configuration.bind fun _ c _ => ?_
    refine (NeverRefuses.ofCompile (exists_keySequence c i)).bind fun _ name _ => ?_
    exact (neverRefuses_nextNumber name).bind fun _ n _ => hdrawn hdraws n

theorem neverRefuses_insertRest (i : Insert) (statement : Statement) :
    NeverRefuses (if statement.outputs.isEmpty then do
        let _ ← execute statement
        return explicitKey i
      else return (← executeReturning statement).head?.bind OutValue.int64?) := by
  split
  · exact (NeverRefuses.execute _).bind fun _ _ _ => NeverRefuses.pure _
  · exact (NeverRefuses.executeReturning _).bind fun _ _ _ => NeverRefuses.pure _

theorem refusesFirst_insertGetId (i : Insert) : RefusesFirst (insertGetId i) := by
  refine refusesFirst_assignKey_bind (RefusesFirst.configured fun _ => neverRefuses_insertRest i _)
    fun hdraws n => ?_
  refine NeverRefuses.configuration.bind fun _ c _ => ?_
  refine (NeverRefuses.ofCompile (Insert.exists_compileGetId_drawn c hdraws n)).bind ?_
  exact fun _ statement _ => neverRefuses_insertRest _ statement

theorem neverRefuses_writeBlobs (binary : BinaryColumns) (outputs : List OutValue) :
    NeverRefuses (writeBlobs binary outputs) := by
  induction binary generalizing outputs with
  | nil => exact NeverRefuses.pure _
  | cons column rest ih =>
    rw [writeBlobs]
    split
    · exact NeverRefuses.fail rfl
    · refine (NeverRefuses.attempt _).bind fun _ result _ => ?_
      cases result with
      | ok _ => exact ih _
      | error e => exact NeverRefuses.fail rfl

theorem neverRefuses_writeThroughLocators (statement : Statement) (binary : BinaryColumns) :
    NeverRefuses (writeThroughLocators statement binary) :=
  NeverRefuses.transaction <| (NeverRefuses.executeReturning _).bind fun _ _ _ =>
    (neverRefuses_writeBlobs _ _).bind fun _ _ _ => NeverRefuses.pure _

theorem refusesFirst_insertBlobs (i : Insert) : RefusesFirst (insertBlobs i) := by
  rw [insertBlobs]
  split
  · exact refusesFirst_insertGetId i
  · refine refusesFirst_assignKey_bind
      (RefusesFirst.configured fun _ => neverRefuses_writeThroughLocators _ _) fun hdraws n => ?_
    refine NeverRefuses.configuration.bind fun _ c _ => ?_
    refine (NeverRefuses.ofCompile (Insert.exists_compileBlobs_drawn c hdraws n)).bind ?_
    exact fun _ statement _ => neverRefuses_writeThroughLocators statement _

theorem refusesFirst_select (q : Query) : RefusesFirst (select q) := by
  refine RefusesFirst.configured fun statement => ?_
  split
  · exact (NeverRefuses.fetch _).transaction
  · exact NeverRefuses.fetch _

theorem refusesFirst_update (u : Update) : RefusesFirst (update u) :=
  RefusesFirst.configured NeverRefuses.execute

theorem refusesFirst_updateBlobs (u : Update) : RefusesFirst (updateBlobs u) := by
  rw [updateBlobs]
  split
  · exact (refusesFirst_update u).wrapped _
  · exact RefusesFirst.configured fun _ => neverRefuses_writeThroughLocators _ _

theorem neverRefuses_executeAll (statements : List String) :
    NeverRefuses (executeAll statements) :=
  NeverRefuses.forM (fun _ => (NeverRefuses.executeSql _).bind fun _ _ _ => NeverRefuses.pure _) _

theorem refusesFirst_alter (b : Blueprint) : RefusesFirst (alter b) :=
  RefusesFirst.configured neverRefuses_executeAll

theorem neverRefuses_primaryKey (table : String) : NeverRefuses (primaryKey table) :=
  NeverRefuses.configuration.bind fun _ _ _ => (NeverRefuses.fetch _).bind fun _ _ _ =>
    NeverRefuses.pure _

theorem exists_dropPlan (c : Config) (table : String) (key : Option String) (ifExists : Bool) :
    ∃ statements, (dropPlan c table key ifExists).result = .ok statements := by
  cases key with
  | none => exact ⟨_, rfl⟩
  | some column =>
    have hdrop : ∃ texts, (Numbering.dropSql c table column).result = .ok texts :=
      ⟨_, Compile.result_bind_eq_ok.mpr ⟨_, Identifier.result_shortened _ _,
        Compile.result_bind_eq_ok.mpr ⟨_, Identifier.result_shortened _ _, rfl⟩⟩⟩
    obtain ⟨texts, htexts⟩ := hdrop
    exact ⟨_, Compile.result_bind_eq_ok.mpr ⟨texts, htexts, rfl⟩⟩

theorem neverRefuses_drop (table : String) (ifExists : Bool) :
    NeverRefuses (drop table ifExists) := by
  refine (neverRefuses_primaryKey table).bind fun _ key _ => ?_
  refine NeverRefuses.configuration.bind fun _ c _ => ?_
  refine (NeverRefuses.ofCompile (exists_dropPlan c table key ifExists)).bind fun _ _ _ => ?_
  exact NeverRefuses.forM
    (fun _ => (NeverRefuses.execute _).bind fun _ _ _ => NeverRefuses.pure _) _

theorem neverRefuses_owner : NeverRefuses owner := by
  refine NeverRefuses.bind (x := knownOwner) (fun _ _ h => by cases h) fun _ known _ => ?_
  cases known with
  | some name => exact NeverRefuses.pure _
  | none =>
    refine (NeverRefuses.fetch _).bind fun _ rows _ => ?_
    split
    · exact NeverRefuses.bind (x := keepOwner _) (fun _ _ h => by cases h) fun _ _ _ =>
        NeverRefuses.pure _
    · exact NeverRefuses.fail rfl

theorem neverRefuses_fetchOwned (query : Config → String → Statement) :
    NeverRefuses (fetchOwned query) :=
  neverRefuses_owner.bind fun _ _ _ => NeverRefuses.configuration.bind fun _ _ _ =>
    NeverRefuses.fetch _

theorem NeverRefuses.executed {x : Step α} (hx : NeverRefuses x) (sql : α → String) :
    NeverRefuses (x >>= fun a => Step.executeSql (sql a) >>= fun _ => Pure.pure ()) :=
  hx.bind fun _ _ _ => (NeverRefuses.executeSql _).bind fun _ _ _ => NeverRefuses.pure _

theorem NeverRefuses.fetched (statement : Statement) (f : List Row → α) :
    NeverRefuses (Step.fetch statement >>= fun rows => Pure.pure (f rows)) :=
  (NeverRefuses.fetch _).bind fun _ _ _ => NeverRefuses.pure _

theorem NeverRefuses.fetchedOwned (query : Config → String → Statement) (f : List Row → α) :
    NeverRefuses (fetchOwned query >>= fun rows => Pure.pure (f rows)) :=
  (neverRefuses_fetchOwned query).bind fun _ _ _ => NeverRefuses.pure _

theorem refusesFirst_callProcedure (p : ProcedureCall) : RefusesFirst (callProcedure p) :=
  RefusesFirst.compiled fun _ => NeverRefuses.ask _

theorem refusesFirst_callFunction (p : ProcedureCall) (returns : OutBinding) :
    RefusesFirst (callFunction p returns) :=
  RefusesFirst.compiled fun _ => (NeverRefuses.ask _).bind fun _ _ _ => NeverRefuses.pure _

end Step

/-- **No command refuses after it has asked.** -/
theorem Command.refusesFirst_step (c : Command) : c.step.RefusesFirst := by
  have ofNever {α : Type} {x : Step α} (h : x.NeverRefuses) (f : α → Result) :
      (x >>= fun a => pure (f a)).RefusesFirst :=
    (Step.RefusesFirst.of_neverRefuses h).wrapped f
  cases c with
  | configure => exact ofNever (Step.NeverRefuses.configuration.executed _) _
  | select q => exact (Step.refusesFirst_select q).wrapped _
  | anyRow q => exact (Step.RefusesFirst.configured fun _ => Step.NeverRefuses.fetched _ _).wrapped _
  | insert i => exact (Step.RefusesFirst.configured Step.NeverRefuses.execute).wrapped _
  | insertGetId i => exact (Step.refusesFirst_insertGetId i).wrapped _
  | insertBlobs i => exact (Step.refusesFirst_insertBlobs i).wrapped _
  | update u => exact (Step.refusesFirst_update u).wrapped _
  | updateBlobs u => exact (Step.refusesFirst_updateBlobs u).wrapped _
  | delete d => exact (Step.RefusesFirst.configured Step.NeverRefuses.execute).wrapped _
  | truncate table => exact ofNever (Step.NeverRefuses.configuration.executed _) _
  | create b => exact (Step.refusesFirst_alter _).wrapped _
  | alter b => exact (Step.refusesFirst_alter b).wrapped _
  | drop table => exact ofNever (Step.neverRefuses_drop table false) _
  | dropIfExists table => exact ofNever (Step.neverRefuses_drop table true) _
  | primaryKey table => exact ofNever (Step.neverRefuses_primaryKey table) _
  | dropAllTables => exact ofNever (Step.neverRefuses_executeAll _) _
  | owner => exact ofNever Step.neverRefuses_owner _
  | hasTable table => exact ofNever (Step.NeverRefuses.fetchedOwned _ _) _
  | hasColumn table column => exact ofNever (Step.NeverRefuses.fetchedOwned _ _) _
  | columnListing table => exact ofNever (Step.NeverRefuses.fetchedOwned _ _) _
  | columns table => exact ofNever (Step.NeverRefuses.fetchedOwned _ _) _
  | indexes table => exact ofNever (Step.NeverRefuses.fetchedOwned _ _) _
  | foreignKeys table => exact ofNever (Step.NeverRefuses.fetchedOwned _ _) _
  | tables => exact ofNever (Step.NeverRefuses.fetchedOwned _ _) _
  | toggleForeignKeys enable => exact ofNever (Step.neverRefuses_owner.executed _) _
  | createSequence s => exact ofNever (Step.NeverRefuses.configuration.executed _) _
  | dropSequence name => exact ofNever (Step.NeverRefuses.configuration.executed _) _
  | sequenceExists name => exact ofNever (Step.NeverRefuses.fetched _ _) _
  | nextNumber name => exact ofNever (Step.neverRefuses_nextNumber name) _
  | currentNumber name => exact ofNever (Step.neverRefuses_currentNumber name) _
  | triggerExists name => exact ofNever (Step.NeverRefuses.fetched _ _) _
  | dropTrigger name => exact ofNever (Step.NeverRefuses.configuration.executed _) _
  | callProcedure p => exact (Step.refusesFirst_callProcedure p).wrapped _
  | callFunction p returns => exact (Step.refusesFirst_callFunction p returns).wrapped _

/-- **A step refuses before it asks.**  In every run, whatever the configuration, the commands and
the replies are, a step that ends with an error of compilation has exchanged nothing. -/
theorem Session.run_refuses_before_asking (s : Session) (steps : List (Script × Command))
    (o : Outcome Result) (ho : o ∈ s.run steps) (e : Error) (he : o.result = .error e)
    (hcompile : e.isCompile = true) : o.exchanges = [] := by
  have hrun := s.forall_mem_run
    (P := fun o => ∀ e, o.result = .error e → e.isCompile = true → o.exchanges = [])
    (fun c t => c.refusesFirst_step t) steps
  exact hrun o ho e he hcompile

/-- An insert of large objects that says it draws its key, but has two rows, after a step that has
asked something. -/
theorem run_refuses_before_asking_two_rows :
    let i : Insert :=
      { Insert.into "files" with
        rows := [[("name", .text "a")], [("name", .text "b")]]
        binaryColumns := [("body", [1])]
        usesSequence := true }
    ∃ o ∈ (Session.start .standard .empty).run
        [(.empty, .truncate "files"), (.empty, .insertBlobs i)],
      o.result = .error (.compile .blobsOfSeveralRows) ∧
        (Error.compile .blobsOfSeveralRows).isCompile = true ∧ o.exchanges = [] := by
  intro i
  let steps := [(Script.empty, Command.truncate "files"), (Script.empty, Command.insertBlobs i)]
  have hlast : ∃ o ∈ (Session.start .standard .empty).run steps,
      o.result = .error (.compile .blobsOfSeveralRows) :=
    ⟨_, List.mem_cons_of_mem _ List.mem_cons_self, rfl⟩
  obtain ⟨o, ho, hresult⟩ := hlast
  exact ⟨o, ho, hresult, rfl, Session.run_refuses_before_asking _ steps o ho _ hresult rfl⟩

end OracleSql
