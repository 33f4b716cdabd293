import OracleSql.Proofs.Session.Transactions
import OracleSql.Proofs.Text.Reading

/-!
# Locks and transactions

The lock of a query is written by its compilation, whatever the query is compiled for: the probe of
a query keeps the lock, and both statements end in its clause (`Query.sql_eq_append_lockClause`).  A
transaction is opened by the step.  So the two have to meet in every command that hands a query to
the database.  There are two of them: `select` runs a locked query in a transaction of its own
(`inTransaction_select`), and `anyRow` opens none (`exchanges_anyRow`).

`Session.locks_in_transactions_iff` puts this together for whole runs.
-/

namespace OracleSql

/-! ### The lock clause -/

theorem Text.isAllBlank_trim (s : String) : isAllBlank (trim s) = isAllBlank s := by
  obtain ⟨before, after, hs, hbefore, hafter⟩ := exists_trimList isBlank s.toList
  have hall : s.toList.all isBlank
      = (before ++ (trimList isBlank s.toList ++ after)).all isBlank :=
    congrArg (List.all · isBlank) hs
  rw [List.all_append, List.all_append, List.all_eq_true.mpr hbefore,
    List.all_eq_true.mpr hafter, Bool.true_and, Bool.and_true] at hall
  rw [isAllBlank, isAllBlank, trim, String.toList_ofList, hall]

/-- A lock that is asked for has a clause. -/
theorem isAllBlank_lockClause {lock : Option Lock} (h : lock.any Lock.isRequested = true) :
    Text.isAllBlank (lockClause lock) = false := by
  match lock with
  | none => cases h
  | some .update => decide
  | some .shared => cases h
  | some (.raw sql) =>
    have hsql : Text.isAllBlank sql = false := (Bool.not_eq_true' _).mp h
    rw [← Text.isAllBlank_trim] at hsql
    rw [lockClause, Text.isAllBlank, String.toList_append, List.all_append]
    exact (Bool.and_eq_false_imp).mpr fun _ => hsql

/-- **The statement of a locked query ends in its lock clause**, and so does the statement of its
probe. -/
theorem Query.sql_eq_append_lockClause {c : Config} {q : Query} {st : Statement}
    (hlock : q.hasLock = true)
    (h : (q.select c).result = .ok st ∨ (q.exists? c).result = .ok st) :
    ∃ front, st.sql = front ++ lockClause q.lock := by
  have hselect : ∀ {q : Query}, q.hasLock = true → (q.select c).result = .ok st →
      ∃ front, st.sql = front ++ lockClause q.lock := by
    intro q hlock h
    obtain ⟨body, hbody, h⟩ := Compile.result_bind_eq_ok.mp h
    cases h
    rw [Query.compile_eq] at hbody
    obtain ⟨joins, _, hbody⟩ := Compile.result_bind_eq_ok.mp hbody
    obtain ⟨wheres, _, hbody⟩ := Compile.result_bind_eq_ok.mp hbody
    obtain ⟨havings, _, hbody⟩ := Compile.result_bind_eq_ok.mp hbody
    rw [lockOrPage, if_pos hlock] at hbody
    obtain ⟨_, _, hbody⟩ := Compile.result_bind_eq_ok.mp hbody
    cases hbody
    refine ⟨(queryClauses c q joins wheres havings).text, ?_⟩
    rw [Sql.statement, Sql.text_append, Sql.text_ofText]
  rcases h with h | h
  · exact hselect hlock h
  · exact hselect (q := q.probe) hlock h

/-! ### Within a transaction -/

/-- A transaction has been begun, and nothing has asked to end it since. -/
def InTransaction (es : List Exchange) : Prop :=
  ∃ front opening rest, es = front ++ opening :: rest ∧ opening.Opens ∧
    ∀ e ∈ rest, e.request ≠ .commit ∧ e.request ≠ .rollback

theorem not_inTransaction_nil : ¬ InTransaction [] := by
  rintro ⟨front, opening, rest, h, _⟩
  exact nil_ne_append_cons front rest opening h

/-- What stands between the begin and the end of a transaction is within it. -/
theorem inTransaction_of_eq {opening last e : Exchange} {inner before after : List Exchange}
    (hopens : opening.Opens) (hinner : Untransacted inner)
    (hlast : last.request = .commit ∨ last.request = .rollback)
    (heq : opening :: (inner ++ [last]) = before ++ e :: after)
    (he : e.request.isTransactional = false) : InTransaction before := by
  cases before with
  | nil =>
    cases heq
    rw [hopens.1] at he
    cases he
  | cons first before =>
    rw [List.cons_append, List.cons.injEq] at heq
    obtain ⟨rfl, heq⟩ := heq
    rcases List.eq_nil_or_concat after with rfl | ⟨after, final, rfl⟩
    · -- the exchange is not the one that ends the transaction
      obtain ⟨_, hfinal⟩ := List.append_inj' heq rfl
      cases hfinal
      rcases hlast with hlast | hlast <;> rw [hlast] at he <;> cases he
    · rw [List.concat_eq_append, ← List.cons_append, ← List.append_assoc] at heq
      obtain ⟨rfl, _⟩ := List.append_inj' heq rfl
      have hbefore : ∀ f ∈ before, f ∈ before ++ e :: after :=
        fun f hf => List.mem_append_left _ hf
      exact ⟨[], opening, before, rfl, hopens, fun f hf =>
        ⟨hinner.request_ne (hbefore f hf) rfl, hinner.request_ne (hbefore f hf) rfl⟩⟩

namespace Step

variable {α β : Type}

/-- **What a transaction asks for besides its begin and its end is within it.** -/
theorem inTransaction_transaction {body : Step α} (hbody : StaysOutside body) {s : Session}
    {e : Exchange} {before after : List Exchange}
    (heq : (transaction body s).exchanges = before ++ e :: after)
    (he : e.request.isTransactional = false) : InTransaction before := by
  cases hreply : (s.script.next .begin).1 with
  | error f =>
    obtain ⟨hexchange, hresult⟩ := ask_of_reply hreply
    rw [transaction, exchanges_bind_of_error hresult, hexchange] at heq
    have hmem : e ∈ [(⟨.begin, .error f⟩ : Exchange)] := by
      rw [heq]
      exact List.mem_append_right _ List.mem_cons_self
    rw [List.mem_singleton.mp hmem] at he
    cases he
  | ok u =>
    obtain ⟨begun, last, hexchanges, hend⟩ := transaction_of_begin_ok body hreply
    rw [hexchanges] at heq
    refine inTransaction_of_eq ⟨rfl, rfl⟩ (hbody.request begun) ?_ heq he
    rcases hend with ⟨_, _, _, rfl, _⟩ | ⟨_, _, ⟨_, rfl⟩, _⟩
    · exact Or.inl rfl
    · exact Or.inr rfl

end Step

/-! ### Queries of a run -/

def Command.query? : Command → Option Query
  | select q | anyRow q => some q
  | _ => none

/-- The request hands over the statement of a query, or that of its probe. -/
def Request.HandsOver (c : Config) (q : Query) (r : Request) : Prop :=
  ∃ st : Statement, ((q.select c).result = .ok st ∨ (q.exists? c).result = .ok st) ∧
    r = .fetch st.numberedSql st.params

/-- In a run, every locked query is handed over within a transaction of the same step. -/
def Session.LocksInTransactions (s : Session) (steps : List (Script × Command)) : Prop :=
  ∀ step o, (step, o) ∈ steps.zip (s.run steps) → ∀ q, step.2.query? = some q →
    q.hasLock = true → ∀ before e after, o.exchanges = before ++ e :: after →
      e.request.HandsOver s.config q → InTransaction before

/-- A locked query is selected within a transaction. -/
theorem inTransaction_select {q : Query} (hlock : q.hasLock = true) {s : Session} {e : Exchange}
    {before after : List Exchange}
    (heq : ((Command.select q).step s).exchanges = before ++ e :: after)
    (he : e.request.isTransactional = false) : InTransaction before := by
  rw [Command.step, (Step.bind_pure_apply _ _ _).1, Step.select] at heq
  cases hcompile : (q.select s.config).result with
  | error _ =>
    rw [Step.exchanges_configured_of_error hcompile] at heq
    exact absurd heq (nil_ne_append_cons before after e)
  | ok st =>
    rw [Step.exchanges_configured_of_ok hcompile, if_pos hlock] at heq
    exact Step.inTransaction_transaction (Step.StaysOutside.fetch st) heq he

theorem exchanges_anyRow {q : Query} {s : Session} {st : Statement}
    (h : (q.exists? s.config).result = .ok st) :
    ∃ reply, ((Command.anyRow q).step s).exchanges
      = [⟨.fetch st.numberedSql st.params, reply⟩] := by
  obtain ⟨reply, hexchange, _⟩ := Step.ask_cases (.fetch st.numberedSql st.params) s
  refine ⟨reply, ?_⟩
  rw [Command.step, (Step.bind_pure_apply _ _ _).1, Step.anyRow,
    Step.exchanges_configured_of_ok h, (Step.bind_pure_apply _ _ _).1]
  exact hexchange

/-- A step of a run is carried out with the configuration that the run has started with. -/
theorem Session.exists_step_of_mem_zip {s : Session} {steps : List (Script × Command)}
    {step : Script × Command} {o : Outcome Result} (h : (step, o) ∈ steps.zip (s.run steps)) :
    step ∈ steps ∧ ∃ t : Session, t.config = s.config ∧ o = step.2.step t := by
  induction steps generalizing s with
  | nil => cases h
  | cons first rest ih =>
    obtain ⟨replies, c⟩ := first
    rw [Session.run, List.zip_cons_cons] at h
    rcases List.mem_cons.mp h with heq | h
    · cases heq
      exact ⟨List.mem_cons_self, { s with script := s.script.append replies }, rfl, rfl⟩
    · obtain ⟨hmem, t, hconfig, ho⟩ := ih h
      refine ⟨List.mem_cons_of_mem _ hmem, t, hconfig.trans ?_, ho⟩
      exact c.transacts_step.config _

theorem Session.exists_mem_zip_of_mem {s : Session} {steps : List (Script × Command)}
    {step : Script × Command} (h : step ∈ steps) :
    ∃ t : Session, t.config = s.config ∧ (step, step.2.step t) ∈ steps.zip (s.run steps) := by
  induction steps generalizing s with
  | nil => cases h
  | cons first rest ih =>
    obtain ⟨replies, c⟩ := first
    rw [Session.run, List.zip_cons_cons]
    rcases List.mem_cons.mp h with rfl | h
    · exact ⟨{ s with script := s.script.append replies }, rfl, List.mem_cons_self⟩
    · obtain ⟨t, hconfig, hmem⟩ := ih (s := (s.perform replies c).session) h
      refine ⟨t, hconfig.trans ?_, List.mem_cons_of_mem _ hmem⟩
      exact c.transacts_step.config _

/-- A locked query that is asked for a row is handed over outside of a transaction. -/
theorem Session.not_locksInTransactions {s : Session} {steps : List (Script × Command)}
    {replies : Script} {q : Query} (hmem : (replies, .anyRow q) ∈ steps) (hlock : q.hasLock = true)
    {st : Statement} (hcompile : (q.exists? s.config).result = .ok st) :
    ¬ s.LocksInTransactions steps := by
  intro h
  obtain ⟨t, hconfig, hzip⟩ := Session.exists_mem_zip_of_mem (s := s) hmem
  obtain ⟨reply, hexchanges⟩ := exchanges_anyRow (s := t) (hconfig ▸ hcompile)
  exact not_inTransaction_nil
    (h _ _ hzip q rfl hlock [] _ [] hexchanges ⟨st, Or.inr hcompile, rfl⟩)

/-- **When locks are taken in transactions.**  In every run, whatever the configuration, the
commands and the replies are, each locked query is handed over within a transaction of its step,
exactly when no command of the run asks whether a locked query has a row, unless the query is
refused.  The statements that are handed over for a locked query do end in its lock clause. -/
theorem Session.locks_in_transactions_iff (s : Session) (steps : List (Script × Command)) :
    (s.LocksInTransactions steps ↔
      ∀ replies q, (replies, Command.anyRow q) ∈ steps → q.hasLock = true →
        ∃ e, (q.exists? s.config).result = .error e) ∧
    ∀ (q : Query) (st : Statement), q.hasLock = true →
      ((q.select s.config).result = .ok st ∨ (q.exists? s.config).result = .ok st) →
        (∃ front, st.sql = front ++ lockClause q.lock) ∧
          Text.isAllBlank (lockClause q.lock) = false := by
  refine ⟨⟨fun h replies q hmem hlock => ?_, ?_⟩, fun q st hlock hst =>
    ⟨Query.sql_eq_append_lockClause hlock hst, isAllBlank_lockClause hlock⟩⟩
  · cases hcompile : (q.exists? s.config).result with
    | error e => exact ⟨e, rfl⟩
    | ok st => exact absurd h (Session.not_locksInTransactions hmem hlock hcompile)
  · rintro hrefused ⟨replies, c⟩ o hzip q hquery hlock before e after heq ⟨st, _, hrequest⟩
    obtain ⟨hmem, t, hconfig, rfl⟩ := Session.exists_step_of_mem_zip hzip
    cases c with
    | select q' =>
      cases hquery
      exact inTransaction_select hlock heq (by rw [hrequest]; rfl)
    | anyRow q' =>
      cases hquery
      obtain ⟨e', hcompile⟩ := hrefused replies q hmem hlock
      rw [← hconfig] at hcompile
      rw [Command.step, (Step.bind_pure_apply _ _ _).1, Step.anyRow,
        Step.exchanges_configured_of_error hcompile] at heq
      exact absurd heq (nil_ne_append_cons before after e)
    | _ => cases hquery

/-- **A probe takes its lock outside a transaction**: it is all that the step asks for, and it ends
in the lock clause. -/
theorem anyRow_locks_outside :
    let q : Query := { Query.ofTable "jobs" with lock := some .update }
    let s := Session.start .standard .empty
    (∃ reply, ((Command.anyRow q).step s).exchanges
        = [⟨.fetch "select 1 as \"exists\" from jobs where rownum = 1 for update" [], reply⟩]) ∧
      ¬ s.LocksInTransactions [(.empty, .anyRow q)] := by
  intro q s
  obtain ⟨st, hcompile, hsql, hparams⟩ : ∃ st, (q.exists? s.config).result = .ok st ∧
      st.numberedSql = "select 1 as \"exists\" from jobs where rownum = 1 for update" ∧
      st.params = [] := ⟨_, rfl, by decide +kernel, rfl⟩
  refine ⟨?_, Session.not_locksInTransactions List.mem_cons_self rfl hcompile⟩
  rw [← hsql, ← hparams]
  exact exchanges_anyRow hcompile

end OracleSql
