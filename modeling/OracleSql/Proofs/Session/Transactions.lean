import OracleSql.Proofs.Session.Exchanges
import OracleSql.Proofs.Session.Settled
import OracleSql.Session.Command

/-!
# The transactions of a run

`Exchanges.lean` says what a single transaction exchanges.  This file says it of every command and
of whole runs: a command asks for at most one transaction, at its end (`Command.transacts_step`),
and everything before it and within it neither begins nor ends one (`StaysOutside`).

A step makes no rollback when its commit fails.  So `run_settled_iff` is an equivalence: in a run no
transaction stays open exactly when every commit succeeds.
-/

namespace OracleSql

namespace Step

variable {α β : Type}

/-! ### Steps by their transactions -/

/-- A step that neither begins nor ends a transaction. -/
def StaysOutside (x : Step α) : Prop :=
  AsksOnly (fun r => r.isTransactional = false) x

/-- A step that asks for at most one transaction, and which leaves the configuration alone. -/
structure Transacts (x : Step α) : Prop where
  config : ∀ s, (x s).session.config = s.config
  transacted : ∀ s, Transacted (x s).exchanges

namespace Transacts

theorem of_staysOutside {x : Step α} (h : StaysOutside x) : Transacts x :=
  ⟨h.config, fun s => .outside (h.request s)⟩

/-- **A transaction is one, if its body stays outside.** -/
theorem transaction {body : Step α} (h : StaysOutside body) :
    Transacts (Step.transaction body) := by
  have hany : AsksOnly (fun _ => True) (Step.transaction body) :=
    .transaction trivial trivial trivial ⟨h.config, fun _ _ _ => trivial⟩
  refine ⟨hany.config, fun s => ?_⟩
  cases hreply : (s.script.next .begin).1 with
  | error f =>
    obtain ⟨hexchange, hresult⟩ := ask_of_reply hreply
    rw [Step.transaction, exchanges_bind_of_error hresult, hexchange]
    exact @Transacted.refused [] (List.forall_mem_nil _) f
  | ok u =>
    obtain ⟨begun, last, hexchanges, hend⟩ := transaction_of_begin_ok body hreply
    rw [hexchanges]
    refine @Transacted.ended [] _ _ (List.forall_mem_nil _) (h.request begun) ?_
    rcases hend with ⟨_, _, _, rfl, _⟩ | ⟨_, _, ⟨_, rfl⟩, _⟩
    · exact Or.inl rfl
    · exact Or.inr rfl

theorem bind {x : Step α} {f : α → Step β} (hx : StaysOutside x) (hf : ∀ a, Transacts (f a)) :
    Transacts (x >>= f) := by
  refine ⟨keepsConfig_bind hx.config fun a => (hf a).config, fun s => ?_⟩
  cases h : (x s).result with
  | error e =>
    rw [exchanges_bind_of_error h]
    exact .outside (hx.request s)
  | ok a =>
    rw [exchanges_bind_of_ok h]
    exact ((hf a).transacted _).append_left (hx.request s)

theorem wrapped {x : Step α} (hx : Transacts x) (f : α → β) :
    Transacts (x >>= fun a => Pure.pure (f a)) := by
  refine ⟨fun s => ?_, fun s => ?_⟩
  · rw [(bind_pure_apply x f s).2, hx.config]
  · rw [(bind_pure_apply x f s).1]
    exact hx.transacted s

theorem configured {compile : Config → Compile α} {f : α → Step β} (hf : ∀ a, Transacts (f a)) :
    Transacts (Step.config >>= fun c => Step.ofCompile (compile c) >>= f) :=
  bind AsksOnly.configuration fun c => bind (AsksOnly.ofCompile (compile c)) hf

end Transacts

/-! ### The steps of a session -/

namespace StaysOutside

theorem ask {r : Request} (h : r.isTransactional = false) : StaysOutside (Step.ask r) :=
  AsksOnly.ask h

theorem execute (statement : Statement) : StaysOutside (Step.execute statement) := ask rfl

theorem executeSql (sql : String) : StaysOutside (Step.executeSql sql) := ask rfl

theorem fetch (statement : Statement) : StaysOutside (Step.fetch statement) := ask rfl

theorem executeReturning (statement : Statement) :
    StaysOutside (Step.executeReturning statement) := ask rfl

theorem of_onlyFetches {x : Step α} (h : OnlyFetches x) : StaysOutside x := by
  refine ⟨h.config, fun s e he => ?_⟩
  obtain ⟨sql, params, hrequest⟩ := h.fetch s e he
  rw [hrequest]
  rfl

theorem executed {x : Step α} (hx : StaysOutside x) (sql : α → String) :
    StaysOutside (x >>= fun a => Step.executeSql (sql a) >>= fun _ => Pure.pure ()) :=
  hx.bind fun _ => (executeSql _).wrapped _

end StaysOutside

theorem staysOutside_sequenceNumber (sql : String) : StaysOutside (sequenceNumber sql) := by
  refine (StaysOutside.fetch _).bind fun rows => ?_
  split
  · exact AsksOnly.pure _
  · exact AsksOnly.fail _

theorem staysOutside_currentNumber (name : String) : StaysOutside (currentNumber name) :=
  AsksOnly.configuration.bind fun _ => staysOutside_sequenceNumber _

theorem staysOutside_insertGetId (i : Insert) : StaysOutside (insertGetId i) := by
  refine (StaysOutside.of_onlyFetches (onlyFetches_assignKey i)).bind fun i => ?_
  refine AsksOnly.configured fun statement => ?_
  split
  · exact (StaysOutside.execute statement).wrapped _
  · exact (StaysOutside.executeReturning statement).wrapped _

theorem staysOutside_writeBlobs (binary : BinaryColumns) (outputs : List OutValue) :
    StaysOutside (writeBlobs binary outputs) := by
  induction binary generalizing outputs with
  | nil => exact AsksOnly.pure _
  | cons column rest ih =>
    rw [writeBlobs]
    split
    · exact AsksOnly.fail _
    · refine (StaysOutside.ask rfl).attempt.bind fun result => ?_
      cases result with
      | ok _ => exact ih _
      | error e => exact AsksOnly.fail _

theorem transacts_writeThroughLocators (statement : Statement) (binary : BinaryColumns) :
    Transacts (writeThroughLocators statement binary) :=
  Transacts.transaction <| (StaysOutside.executeReturning statement).bind fun _ =>
    (staysOutside_writeBlobs _ _).wrapped _

theorem transacts_insertBlobs (i : Insert) : Transacts (insertBlobs i) := by
  rw [insertBlobs]
  split
  · exact Transacts.of_staysOutside (staysOutside_insertGetId i)
  · refine Transacts.bind (StaysOutside.of_onlyFetches (onlyFetches_assignKey i)) fun i => ?_
    exact Transacts.configured fun _ => transacts_writeThroughLocators _ _

theorem staysOutside_update (u : Update) : StaysOutside (update u) :=
  AsksOnly.configured StaysOutside.execute

theorem transacts_updateBlobs (u : Update) : Transacts (updateBlobs u) := by
  rw [updateBlobs]
  split
  · exact Transacts.of_staysOutside ((staysOutside_update u).wrapped _)
  · exact Transacts.configured fun _ => transacts_writeThroughLocators _ _

/-- A query that locks is one transaction, and any other one is none. -/
theorem transacts_select (q : Query) : Transacts (select q) := by
  refine Transacts.configured fun statement => ?_
  split
  · exact Transacts.transaction (StaysOutside.fetch statement)
  · exact Transacts.of_staysOutside (StaysOutside.fetch statement)

theorem staysOutside_executeAll (statements : List String) :
    StaysOutside (executeAll statements) :=
  AsksOnly.forM (fun _ => (StaysOutside.executeSql _).wrapped _) _

theorem staysOutside_alter (b : Blueprint) : StaysOutside (alter b) :=
  AsksOnly.configured staysOutside_executeAll

theorem staysOutside_primaryKey (table : String) : StaysOutside (primaryKey table) :=
  AsksOnly.configuration.bind fun _ => (StaysOutside.fetch _).wrapped _

theorem staysOutside_drop (table : String) (ifExists : Bool) :
    StaysOutside (drop table ifExists) := by
  refine (staysOutside_primaryKey table).bind fun key => AsksOnly.configured fun statements => ?_
  exact AsksOnly.forM (fun statement => (StaysOutside.execute statement).wrapped _) _

theorem staysOutside_owner : StaysOutside owner := by
  refine AsksOnly.bind (x := knownOwner) (.of_silent (fun _ => rfl) fun _ => rfl) fun known => ?_
  cases known with
  | some name => exact AsksOnly.pure _
  | none =>
    refine (StaysOutside.fetch _).bind fun rows => ?_
    split
    · exact AsksOnly.bind (x := keepOwner _) (.of_silent (fun _ => rfl) fun _ => rfl) fun _ =>
        AsksOnly.pure _
    · exact AsksOnly.fail _

theorem staysOutside_fetchOwned (query : Config → String → Statement) :
    StaysOutside (fetchOwned query) :=
  staysOutside_owner.bind fun _ => AsksOnly.configuration.bind fun _ => StaysOutside.fetch _

theorem staysOutside_callProcedure (p : ProcedureCall) : StaysOutside (callProcedure p) :=
  (AsksOnly.ofCompile _).bind fun _ => StaysOutside.ask rfl

theorem staysOutside_callFunction (p : ProcedureCall) (returns : OutBinding) :
    StaysOutside (callFunction p returns) :=
  (AsksOnly.ofCompile _).bind fun _ => (StaysOutside.ask rfl).wrapped _

end Step

/-- **A command asks for at most one transaction**, whatever the replies are. -/
theorem Command.transacts_step (c : Command) : c.step.Transacts := by
  have outside {α : Type} {x : Step α} (h : x.StaysOutside) (f : α → Result) :
      (x >>= fun a => pure (f a)).Transacts :=
    .of_staysOutside (h.wrapped f)
  have owned {α : Type} (query : Config → String → Statement) (f : List Row → α)
      (g : α → Result) :
      ((Step.fetchOwned query >>= fun rows => pure (f rows)) >>= fun a => pure (g a)).Transacts :=
    outside ((Step.staysOutside_fetchOwned query).wrapped f) g
  cases c with
  | configure => exact outside (Step.StaysOutside.executed Step.AsksOnly.configuration _) _
  | select q => exact (Step.transacts_select q).wrapped _
  | anyRow q =>
    exact outside (Step.AsksOnly.configured fun _ => (Step.StaysOutside.fetch _).wrapped _) _
  | insert i => exact outside (Step.AsksOnly.configured Step.StaysOutside.execute) _
  | insertGetId i => exact outside (Step.staysOutside_insertGetId i) _
  | insertBlobs i => exact (Step.transacts_insertBlobs i).wrapped _
  | update u => exact outside (Step.staysOutside_update u) _
  | updateBlobs u => exact (Step.transacts_updateBlobs u).wrapped _
  | delete d => exact outside (Step.AsksOnly.configured Step.StaysOutside.execute) _
  | truncate table => exact outside (Step.StaysOutside.executed Step.AsksOnly.configuration _) _
  | create b => exact outside (Step.staysOutside_alter _) _
  | alter b => exact outside (Step.staysOutside_alter b) _
  | drop table => exact outside (Step.staysOutside_drop table false) _
  | dropIfExists table => exact outside (Step.staysOutside_drop table true) _
  | primaryKey table => exact outside (Step.staysOutside_primaryKey table) _
  | dropAllTables => exact outside (Step.staysOutside_executeAll _) _
  | owner => exact outside Step.staysOutside_owner _
  | hasTable table => exact owned _ _ _
  | hasColumn table column => exact owned _ _ _
  | columnListing table => exact owned _ _ _
  | columns table => exact owned _ _ _
  | indexes table => exact owned _ _ _
  | foreignKeys table => exact owned _ _ _
  | tables => exact owned _ _ _
  | toggleForeignKeys enable => exact outside (Step.staysOutside_owner.executed _) _
  | createSequence s => exact outside (Step.StaysOutside.executed Step.AsksOnly.configuration _) _
  | dropSequence name => exact outside (Step.StaysOutside.executed Step.AsksOnly.configuration _) _
  | sequenceExists name => exact outside ((Step.StaysOutside.fetch _).wrapped _) _
  | nextNumber name =>
    exact outside (Step.StaysOutside.of_onlyFetches (Step.onlyFetches_nextNumber name)) _
  | currentNumber name => exact outside (Step.staysOutside_currentNumber name) _
  | triggerExists name => exact outside ((Step.StaysOutside.fetch _).wrapped _) _
  | dropTrigger name => exact outside (Step.StaysOutside.executed Step.AsksOnly.configuration _) _
  | callProcedure p => exact outside (Step.staysOutside_callProcedure p) _
  | callFunction p returns => exact outside (Step.staysOutside_callFunction p returns) _

/-! ### Runs -/

theorem Session.transacted_of_mem_run (s : Session) (steps : List (Script × Command))
    {o : Outcome Result} (ho : o ∈ s.run steps) : Transacted o.exchanges :=
  s.forall_mem_run (P := fun o => Transacted o.exchanges) (fun c t => c.transacts_step.transacted t)
    steps o ho

/-- Steps that settle their transactions do not meet those of others. -/
theorem neverNested_flatMap {os : List (Outcome Result)}
    (htransacted : ∀ o ∈ os, Transacted o.exchanges) (hsettled : ∀ o ∈ os, Settled o.exchanges) :
    NeverNested false (os.flatMap Outcome.exchanges) := by
  induction os with
  | nil => exact neverNested_nil false
  | cons o os ih =>
    obtain ⟨ho, hos⟩ := List.forall_mem_cons.mp htransacted
    obtain ⟨hso, hsos⟩ := List.forall_mem_cons.mp hsettled
    rw [List.flatMap_cons, neverNested_append, settled_iff.mp hso]
    exact ⟨ho.neverNested, ih hos hsos⟩

/-- **When no step leaves a transaction open.**  In every run, whatever the configuration, the
commands and the replies are, each begin that succeeds is followed within its step by a commit that
succeeds or by a rollback, and no begin is asked for while a transaction is open, exactly when every
commit of the run succeeds. -/
theorem Session.run_settled_iff (s : Session) (steps : List (Script × Command)) :
    ((∀ o ∈ s.run steps, Settled o.exchanges) ∧
        NeverNested false ((s.run steps).flatMap Outcome.exchanges)) ↔
      ∀ o ∈ s.run steps, ∀ e ∈ o.exchanges, e.request = .commit → e.succeeds = true := by
  have htransacted : ∀ o ∈ s.run steps, Transacted o.exchanges :=
    fun o ho => s.transacted_of_mem_run steps ho
  constructor
  · rintro ⟨hsettled, _⟩ o ho
    exact (htransacted o ho).settled_iff.mp (hsettled o ho)
  · intro hcommits
    have hsettled : ∀ o ∈ s.run steps, Settled o.exchanges :=
      fun o ho => (htransacted o ho).settled_iff.mpr (hcommits o ho)
    exact ⟨hsettled, neverNested_flatMap htransacted hsettled⟩

/-- **A commit that fails leaves its transaction open**: the first of two locked queries cannot be
committed, no rollback follows, and the second one begins while the transaction is open. -/
theorem run_not_settled_commit :
    let q : Query := { Query.ofTable "jobs" with lock := some .update }
    let replies : Script := { Script.empty with commits := [.error (.database "lost")] }
    let run := (Session.start .standard .empty).run [(replies, .select q), (.empty, .select q)]
    run.map (fun o => o.exchanges.map Exchange.succeeds)
        = [[true, true, false], [true, true, true]] ∧
      ¬ (∀ o ∈ run, Settled o.exchanges) ∧
      ¬ NeverNested false (run.flatMap Outcome.exchanges) := by
  intro q replies run
  refine ⟨rfl, fun hsettled => ?_, fun hnever => ?_⟩
  · have hopen := settled_iff.mp (hsettled _ List.mem_cons_self)
    exact absurd (show true = false from hopen) (by decide)
  · -- the begin of the second query stands behind the three exchanges of the first
    have hopen := hnever ((run.flatMap Outcome.exchanges).take 3) _ _
      (List.take_append_drop 3 _).symm rfl
    exact absurd (show true = false from hopen) (by decide)

end OracleSql
