import OracleSql.Proofs.Schema.Accepted
import OracleSql.Proofs.Session.DrawnRow
import OracleSql.Proofs.Session.LargeObjects
import OracleSql.Proofs.Session.SequenceNumbers

/-!
# Keys that are drawn before an insert

An insert may draw its key from a sequence.  The number is put into its one row, in place of
whatever the row had for the key, and the row is inserted with it; large binary columns are none of
the row and stand behind it (`Command.runsOne_keyedStep`).  `SuppliesKey` says that the insert that
is run has the key that has been reported, and `Command.drawn_key_iff` when it does.  It does not
for large objects alone, which have no row to draw a key for, nor for numbers that change their
value as they are turned into signed ones.
-/

namespace OracleSql

open Identifier Step

/-! ### The one statement of a run -/

/-- Whether a request runs a statement that changes rows. -/
def Request.runs : Request → Bool
  | .execute .. | .returning .. => true
  | _ => false

/-- Whether an exchange asks for rows. -/
def Exchange.fetches (e : Exchange) : Bool :=
  match e.request with
  | .fetch .. => true
  | _ => false

/-- The integer that the answer to a query reports for a sequence. -/
def Exchange.reportedNumber? : Exchange → Option Int
  | ⟨.fetch .., .ok rows⟩ => (sequenceField? rows).bind Json.whole?
  | _ => none

/-- Among the exchanges one statement is run, and what comes before it is given. -/
structure RunsOne (es before : List Exchange) (r : Request) : Prop where
  runs : r.runs = true
  before_runs : ∀ e ∈ before, e.request.runs = false
  split : ∃ reply after, es = before ++ ⟨r, reply⟩ :: after ∧
    ∀ e ∈ after, e.request.runs = false

namespace RunsOne

variable {es before : List Exchange} {r : Request}

theorem eq_of_split (h : RunsOne es before r) {before' after' : List Exchange} {e : Exchange}
    (hes : es = before' ++ e :: after') (he : e.request.runs = true) :
    before' = before ∧ e.request = r := by
  obtain ⟨reply, after, hsplit, hafter⟩ := h.split
  have hbefore : e ∉ before := fun hmem => by
    rw [h.before_runs e hmem] at he
    cases he
  have hrest : e ∉ after := fun hmem => by
    rw [hafter e hmem] at he
    cases he
  obtain ⟨hsame, hrequest, _⟩ := (List.append_cons_inj_of_notMem hbefore hrest).mp
    (hsplit.symm.trans hes)
  exact ⟨hsame.symm, by rw [← hrequest]⟩

theorem of_ask (hr : r.runs = true) (s : Session) : RunsOne (Step.ask r s).exchanges [] r := by
  obtain ⟨reply, hexchange, _⟩ := Step.ask_cases r s
  rw [hexchange]
  exact ⟨hr, List.forall_mem_nil _, reply, [], rfl, List.forall_mem_nil _⟩

theorem cons {e : Exchange} (he : e.request.runs = false) (h : RunsOne es before r) :
    RunsOne (e :: es) (e :: before) r := by
  obtain ⟨reply, after, rfl, hafter⟩ := h.split
  exact ⟨h.runs, List.forall_mem_cons.mpr ⟨he, h.before_runs⟩, reply, after, rfl, hafter⟩

end RunsOne

namespace Step

/-- **A write through locators runs its statement once**, when its transaction begins. -/
theorem runsOne_writeThroughLocators (statement : Statement) (binary : BinaryColumns)
    (s : Session) :
    (∀ e ∈ (writeThroughLocators statement binary s).exchanges, e.request.runs = false) ∨
      RunsOne (writeThroughLocators statement binary s).exchanges [⟨.begin, .ok ()⟩]
        (.returning statement.numberedSql statement.params statement.outputs) := by
  cases hreply : (s.script.next .begin).1 with
  | error f =>
    obtain ⟨hexchange, hresult⟩ := ask_of_reply hreply
    have hexchanges : (writeThroughLocators statement binary s).exchanges
        = [⟨.begin, .error f⟩] := (exchanges_bind_of_error hresult).trans hexchange
    rw [hexchanges]
    exact Or.inl (List.forall_mem_singleton.mpr rfl)
  | ok u =>
    obtain ⟨received, writes, last, hexchanges, hatomic⟩ :=
      writeThroughLocators_atomic statement binary hreply
    rw [hexchanges]
    refine Or.inr ⟨rfl, List.forall_mem_singleton.mpr rfl, received, writes ++ [last], rfl, ?_⟩
    intro e he
    rcases List.mem_append.mp he with hwrite | hlast
    · obtain ⟨k, hk, rfl⟩ := List.mem_iff_getElem.mp hwrite
      obtain ⟨_, _, _, _, _, _, _, hrequest⟩ := hatomic.write k hk
      rw [hrequest]
      rfl
    · rw [List.mem_singleton.mp hlast]
      rcases hatomic.last_request with hrequest | hrequest <;> rw [hrequest] <;> rfl

end Step

/-! ### Drawing the key -/

namespace Insert

/-- The sequence that the key is drawn from. -/
def sequence (c : Config) (i : Insert) : String :=
  i.sequenceName.getD (columnObject c i.table i.keyColumn "seq")

def drawRequest (c : Config) (i : Insert) : Request :=
  (Statement.ofText (SequenceSpec.nextSql c (i.sequence c))).fetchRequest

theorem result_keySequence (c : Config) (i : Insert) :
    (keySequence c i).result = .ok (i.sequence c) := by
  rw [keySequence, sequence]
  cases i.sequenceName with
  | some name => rfl
  | none => exact result_sequenceName c i.table i.keyColumn

end Insert

/-- **A key is drawn by one query**, and what follows it is run with the number. -/
theorem Step.exchanges_assignKey_bind {β : Type} {i : Insert} (hdraws : drawsKey i = true)
    (f : Insert → Step β) (s : Session) :
    (∃ reply, ((assignKey i >>= f) s).exchanges = [⟨i.drawRequest s.config, reply⟩]) ∨
      ∃ rows n t, drawnNumber rows = some n ∧ t.config = s.config ∧
        ((assignKey i >>= f) s).exchanges
          = ⟨i.drawRequest s.config, .ok rows⟩ :: (f (i.withKey n) t).exchanges := by
  have hassign : ((assignKey i >>= f) s).exchanges
      = ((nextNumber (i.sequence s.config) >>= fun n => f (i.withKey n)) s).exchanges := by
    rw [assignKey_of_drawsKey hdraws]
    simp only [bind_assoc, pure_bind]
    exact exchanges_configured_of_ok (i.result_keySequence s.config)
  obtain ⟨reply, hexchange, hfailure, hrows⟩ :=
    sequenceNumber_cases (SequenceSpec.nextSql s.config (i.sequence s.config)) s
  -- The number is drawn with the configuration that the sequence was named in.
  have hnext : sequenceNumber (SequenceSpec.nextSql s.config (i.sequence s.config)) s
      = nextNumber (i.sequence s.config) s := rfl
  rw [hnext] at hexchange hfailure hrows
  rw [hassign]
  cases reply with
  | error failure =>
    exact Or.inl ⟨_, (exchanges_bind_of_error (hfailure failure rfl)).trans hexchange⟩
  | ok rows =>
    have hresult := hrows rows rfl
    cases hn : drawnNumber rows with
    | none =>
      rw [hn] at hresult
      exact Or.inl ⟨_, (exchanges_bind_of_error hresult).trans hexchange⟩
    | some n =>
      rw [hn] at hresult
      refine Or.inr ⟨rows, n, _, hn, (onlyFetches_nextNumber (i.sequence s.config)).config s, ?_⟩
      rw [exchanges_bind_of_ok hresult, hexchange]
      rfl

/-! ### The inserts -/

/-- The insert of a command that yields its key, and the large binary columns that it writes. -/
def Command.keyedInsert? : Command → Option (Insert × BinaryColumns)
  | insertGetId i => some (i, [])
  | insertBlobs i => some (i, i.binaryColumns)
  | _ => none

namespace Step

variable {i : Insert}

/-- **What runs one statement after a key is given runs it after the key is drawn**, with the
number. -/
theorem runsOne_assignKey_bind {β : Type} {f : Insert → Step β} {before : List Exchange}
    {r : Int64 → Request} (hdraws : drawsKey i = true) (s : Session)
    (h : ∀ n t, t.config = s.config →
      (∀ e ∈ (f (i.withKey n) t).exchanges, e.request.runs = false) ∨
        RunsOne (f (i.withKey n) t).exchanges before (r n)) :
    (∀ e ∈ ((assignKey i >>= f) s).exchanges, e.request.runs = false) ∨
      ∃ rows n, drawnNumber rows = some n ∧
        RunsOne ((assignKey i >>= f) s).exchanges
          (⟨i.drawRequest s.config, .ok rows⟩ :: before) (r n) := by
  rcases exchanges_assignKey_bind hdraws f s with
    ⟨reply, hexchanges⟩ | ⟨rows, n, t, hn, ht, hexchanges⟩
  · rw [hexchanges]
    exact Or.inl (List.forall_mem_singleton.mpr rfl)
  · rw [hexchanges]
    rcases h n t ht with hnone | hone
    · exact Or.inl (List.forall_mem_cons.mpr ⟨rfl, hnone⟩)
    · exact Or.inr ⟨rows, n, hn, hone.cons rfl⟩

/-- An insert of one row runs the statement of the row with the drawn key. -/
theorem runsOne_insertGetId {row : RowValues} (hdraws : drawsKey i = true)
    (hrows : i.rows = [row]) (s : Session) :
    (∀ e ∈ (insertGetId i s).exchanges, e.request.runs = false) ∨
      ∃ rows n, drawnNumber rows = some n ∧
        RunsOne (insertGetId i s).exchanges [⟨i.drawRequest s.config, .ok rows⟩]
          (i.rowRequest s.config [] (row.drawn i.keyColumn n)) := by
  refine runsOne_assignKey_bind hdraws s fun n t ht => Or.inr ?_
  rw [← ht, exchanges_configured_of_ok (Insert.result_compileGetId_withKey t.config hrows n)]
  have hexecute : (i.rowStatement t.config [] (row.drawn i.keyColumn n)).outputs.isEmpty = true :=
    rfl
  rw [if_pos hexecute, (bind_pure_apply _ _ t).1]
  exact .of_ask rfl t

/-- An insert of large objects runs it within its transaction. -/
theorem runsOne_insertBlobs {row : RowValues} (hdraws : drawsKey i = true)
    (hrows : i.rows = [row]) (hbinary : i.binaryColumns ≠ []) (s : Session) :
    (∀ e ∈ (insertBlobs i s).exchanges, e.request.runs = false) ∨
      ∃ rows n, drawnNumber rows = some n ∧
        RunsOne (insertBlobs i s).exchanges
          [⟨i.drawRequest s.config, .ok rows⟩, ⟨.begin, .ok ()⟩]
          (i.rowRequest s.config i.binaryColumns (row.drawn i.keyColumn n)) := by
  have hsome : ¬i.binaryColumns.isEmpty = true := by simpa using hbinary
  rw [insertBlobs, if_neg hsome]
  refine runsOne_assignKey_bind hdraws s fun n t ht => ?_
  have hcompile := Insert.result_compileBlobs_withKey t.config hrows n hbinary
  rw [← ht, exchanges_configured_of_ok hcompile]
  have hruns := runsOne_writeThroughLocators
    (i.rowStatement t.config i.binaryColumns (row.drawn i.keyColumn n)) i.binaryColumns t
  rw [Insert.rowRequest, if_neg hbinary]
  exact hruns

theorem assignKey_of_nil (hrows : i.rows = []) : assignKey i = pure i := by
  refine assignKey_of_not_drawsKey ?_
  rw [drawsKey, hrows]
  exact Bool.and_eq_false_imp.mpr fun h => by simp at h

theorem exchanges_insertGetId_of_nil (hrows : i.rows = []) (s : Session) :
    (insertGetId i s).exchanges = [] := by
  have hrefused : ∃ e, (i.compileGetId s.config).result = .error e := by
    cases h : (i.compileGetId s.config).result with
    | error e => exact ⟨e, rfl⟩
    | ok statement =>
      obtain ⟨sql, hsql, _⟩ := Compile.result_bind_eq_ok.mp h
      obtain ⟨_, _, hplain, _⟩ := Insert.returningKey_eq_ok.mp hsql
      obtain ⟨_, _, harranged, _⟩ := Insert.plain_eq_ok.mp hplain
      obtain ⟨_, _, hcons, _⟩ := arrangeRows_eq_ok.mp harranged
      rw [hrows] at hcons
      cases hcons
  obtain ⟨e, he⟩ := hrefused
  rw [insertGetId, assignKey_of_nil hrows, pure_bind]
  exact exchanges_configured_of_error he

/-- An insert of large objects alone runs its statement without a query. -/
theorem runsOne_insertBlobs_of_nil (hrows : i.rows = []) (hbinary : i.binaryColumns ≠ [])
    (s : Session) :
    (∀ e ∈ (insertBlobs i s).exchanges, e.request.runs = false) ∨
      RunsOne (insertBlobs i s).exchanges [⟨.begin, .ok ()⟩]
        (i.rowRequest s.config i.binaryColumns []) := by
  have hsome : ¬i.binaryColumns.isEmpty = true := by simpa using hbinary
  have hcompile : (i.compileBlobs s.config).result
      = .ok (i.rowStatement s.config i.binaryColumns []) :=
    (Insert.compileBlobs_eq_ok hbinary).mpr
      ⟨by rw [hrows]; exact Nat.zero_le 1, [], [[]], by rw [hrows]; rfl,
        (Insert.statement_blobsSql s.config hbinary []).symm⟩
  rw [insertBlobs, if_neg hsome, assignKey_of_nil hrows, pure_bind,
    exchanges_configured_of_ok hcompile, Insert.rowRequest, if_neg hbinary]
  exact runsOne_writeThroughLocators _ _ s

end Step

/-- The step of a command that inserts and yields the key. -/
def Command.keyedStep (i : Insert) (binary : BinaryColumns) : Step (Option Int64) :=
  if binary = [] then Step.insertGetId i else Step.insertBlobs i

theorem Command.exchanges_keyedInsert {command : Command} {i : Insert} {binary : BinaryColumns}
    (hcommand : command.keyedInsert? = some (i, binary)) (s : Session) :
    (command.step s).exchanges = (keyedStep i binary s).exchanges ∧
      (binary = [] ∨ binary = i.binaryColumns) := by
  cases command with
  | insertGetId j =>
    cases hcommand
    exact ⟨(Step.bind_pure_apply _ _ s).1, Or.inl rfl⟩
  | insertBlobs j =>
    cases hcommand
    refine ⟨(Step.bind_pure_apply _ _ s).1.trans ?_, Or.inr rfl⟩
    by_cases hbinary : i.binaryColumns = []
    · rw [keyedStep, if_pos hbinary, Step.insertBlobs, hbinary]
      rfl
    · rw [keyedStep, if_neg hbinary]
  | _ => cases hcommand

namespace Insert

/-- **The key of an insert is supplied**: exactly one query was sent before it, for the next number
of the sequence, and the row that it inserts gives the key once, with the number that the query
has reported.  All other values of the row are those of the description, in its order. -/
structure SuppliesKey (c : Config) (i : Insert) (before : List Exchange) (values : RowValues) :
    Prop where
  drawn : ∃ draw n, before.filter Exchange.fetches = [draw] ∧ draw.request = i.drawRequest c ∧
    draw.reportedNumber? = some n.toInt ∧
    (values.filter fun p => Text.sameIgnoringCase p.1 i.keyColumn) = [(i.keyColumn, .int n)]
  others : values.others i.keyColumn = (i.rows.headD []).others i.keyColumn

/-- **When a drawn key is supplied**: the number that is reported is a whole one that a signed
number of 64 bits can be, and no value is lost to another one of the same column. -/
theorem suppliesKey_drawn_iff {c : Config} {i : Insert} {row : RowValues} {rows : List Row}
    {n : Int64} {before : List Exchange} (hrows : i.rows = [row]) (hn : drawnNumber rows = some n)
    (hbefore : before.filter Exchange.fetches = [⟨i.drawRequest c, .ok rows⟩]) :
    i.SuppliesKey c before (row.drawn i.keyColumn n) ↔
      (∃ k, (sequenceField? rows).bind Json.whole? = some k ∧ k < 2 ^ 63) ∧
        ∀ p ∈ row, Text.sameIgnoringCase p.1 i.keyColumn = false →
          row.value? p.1 = some p.2 := by
  rw [← RowValues.kept_eq_others_iff]
  constructor
  · rintro ⟨⟨draw, m, hdraw, _, hreported, _⟩, hothers⟩
    rw [hbefore, List.cons.injEq, and_iff_left rfl] at hdraw
    subst hdraw
    rw [RowValues.others_drawn, hrows] at hothers
    have hlt := m.toInt_lt
    exact ⟨⟨m.toInt, hreported, hlt⟩, hothers⟩
  · rintro ⟨⟨k, hk, hlt⟩, hkept⟩
    refine ⟨⟨_, n, hbefore, rfl, ?_, RowValues.filter_key_drawn _ _ _⟩, ?_⟩
    · obtain ⟨j, hj, hwhole⟩ := Option.bind_eq_some_iff.mp hk
      rw [drawnNumber_eq, hj, Option.bind_some] at hn
      obtain ⟨u, hu, rfl⟩ := Option.map_eq_some_iff.mp hn
      rw [Json.toInt_of_whole? hu hwhole hlt]
      exact hk
    · rw [RowValues.others_drawn, hrows]
      exact hkept

end Insert

theorem Exchange.fetches_of_reportedNumber? {e : Exchange} {k : Int}
    (h : e.reportedNumber? = some k) : e.fetches = true := by
  obtain ⟨request, reply⟩ := e
  cases request with
  | fetch sql params => rfl
  | _ => cases h

/-- **What an insert that draws its key runs**: nothing, or one statement, behind the query for the
key unless there is no row. -/
theorem Command.runsOne_keyedStep {i : Insert} {binary : BinaryColumns}
    (hbinary : binary = [] ∨ binary = i.binaryColumns) (hsequence : i.usesSequence = true)
    (hrows : i.rows.length ≤ 1) (hkey : i.hasExplicitKey = false) (s : Session) :
    (∀ e ∈ (keyedStep i binary s).exchanges, e.request.runs = false) ∨
      (i.rows = [] ∧ ∃ before, before.filter Exchange.fetches = [] ∧
        RunsOne (keyedStep i binary s).exchanges before (i.rowRequest s.config binary [])) ∨
      ∃ row rows n before, i.rows = [row] ∧ drawnNumber rows = some n ∧
        before.filter Exchange.fetches = [⟨i.drawRequest s.config, .ok rows⟩] ∧
        RunsOne (keyedStep i binary s).exchanges before
          (i.rowRequest s.config binary (row.drawn i.keyColumn n)) := by
  rcases hcases : i.rows with _ | ⟨row, _ | ⟨second, rest⟩⟩
  · rw [keyedStep]
    split
    · refine Or.inl ?_
      rw [Step.exchanges_insertGetId_of_nil hcases]
      exact List.forall_mem_nil _
    · next hne =>
      obtain rfl := hbinary.resolve_left hne
      refine (Step.runsOne_insertBlobs_of_nil hcases hne s).imp_right fun hone => ?_
      exact Or.inl ⟨rfl, _, rfl, hone⟩
  · have hdraws : Step.drawsKey i = true := by
      rw [Step.drawsKey, hsequence, hcases, hkey]
      rfl
    rw [keyedStep]
    split
    · next hnil =>
      subst hnil
      refine (Step.runsOne_insertGetId hdraws hcases s).imp_right fun hone => ?_
      obtain ⟨rows, n, hn, hone⟩ := hone
      exact Or.inr ⟨row, rows, n, _, rfl, hn, rfl, hone⟩
    · next hne =>
      obtain rfl := hbinary.resolve_left hne
      refine (Step.runsOne_insertBlobs hdraws hcases hne s).imp_right fun hone => ?_
      obtain ⟨rows, n, hn, hone⟩ := hone
      exact Or.inr ⟨row, rows, n, _, rfl, hn, rfl, hone⟩
  · rw [hcases, List.length_cons, List.length_cons] at hrows
    omega

/-- **When the key of an insert is supplied.**  For every session, every insert that draws its key,
has one row at most and does not give the key, and all replies: a statement that is run inserts one
row.  Its key is supplied if and only if there is a row at all, the number that is reported before
is a whole one below `2 ^ 63`, and the row does not name another column again with another value. -/
theorem Command.drawn_key_iff {command : Command} {i : Insert} {binary : BinaryColumns}
    {before after : List Exchange} {e : Exchange} (s : Session)
    (hcommand : command.keyedInsert? = some (i, binary)) (hsequence : i.usesSequence = true)
    (hrows : i.rows.length ≤ 1) (hkey : i.hasExplicitKey = false)
    (hsent : (command.step s).exchanges = before ++ e :: after) (hruns : e.request.runs = true) :
    ∃ values, e.request = i.rowRequest s.config binary values ∧
      (i.SuppliesKey s.config before values ↔
        i.rows ≠ [] ∧ (∃ draw ∈ before, ∃ k, draw.reportedNumber? = some k ∧ k < 2 ^ 63) ∧
          ∀ p ∈ i.rows.headD [], Text.sameIgnoringCase p.1 i.keyColumn = false →
            (i.rows.headD []).value? p.1 = some p.2) := by
  obtain ⟨hstep, hbinary⟩ := exchanges_keyedInsert hcommand s
  rw [hstep] at hsent
  rcases runsOne_keyedStep hbinary hsequence hrows hkey s with
    hnone | ⟨hnil, _, hfetches, hone⟩ | ⟨row, rows, n, _, hrow, hn, hfetches, hone⟩
  · rw [hnone e (by rw [hsent]; exact List.mem_append_right _ List.mem_cons_self)] at hruns
    cases hruns
  · obtain ⟨rfl, hrequest⟩ := hone.eq_of_split hsent hruns
    refine ⟨[], hrequest, iff_of_false ?_ fun h => h.1 hnil⟩
    rintro ⟨⟨draw, n, hdraw, _⟩, _⟩
    rw [hfetches] at hdraw
    cases hdraw
  · obtain ⟨rfl, hrequest⟩ := hone.eq_of_split hsent hruns
    refine ⟨_, hrequest, (Insert.suppliesKey_drawn_iff hrow hn hfetches).trans ?_⟩
    have hdraw : (∃ draw ∈ before, ∃ k, draw.reportedNumber? = some k ∧ k < 2 ^ 63) ↔
        ∃ k, (sequenceField? rows).bind Json.whole? = some k ∧ k < 2 ^ 63 := by
      constructor
      · rintro ⟨draw, hmem, k, hk, hlt⟩
        have hfetch := List.mem_filter.mpr ⟨hmem, Exchange.fetches_of_reportedNumber? hk⟩
        rw [hfetches, List.mem_singleton] at hfetch
        subst hfetch
        exact ⟨k, hk, hlt⟩
      · rintro ⟨k, hk, hlt⟩
        have hmem : ⟨i.drawRequest s.config, .ok rows⟩ ∈ before.filter Exchange.fetches := by
          rw [hfetches]
          exact List.mem_singleton_self _
        exact ⟨_, List.mem_of_mem_filter hmem, k, hk, hlt⟩
    rw [hdraw, hrow, List.headD_cons]
    exact (and_iff_right (List.cons_ne_nil _ _)).symm

/-- A row that gives the key as null and in another case, inserted with a large object. -/
theorem Command.drawn_key_null :
    let i : Insert :=
      { (Insert.into "files").row [("name", .text "ann"), ("ID", .null)] with
        binaryColumns := [("body", [1])], usesSequence := true }
    let script : Script := { Script.empty with rows := [.ok [[("ID", .int 41)]]] }
    let s : Session := .start .standard script
    ∃ before e after values,
      ((Command.insertBlobs i).step s).exchanges = before ++ e :: after ∧
        e.request = .returning ("insert into files (id, name, body) "
          ++ "values (:1, :2, EMPTY_BLOB()) returning body, id into :3, :4")
          [.int 41, .text "ann"] [.blobLocator "body", .key "id"] ∧
        e.request = i.rowRequest s.config i.binaryColumns values ∧
        i.SuppliesKey s.config before values := by
  intro i script s
  have hcommand : (Command.insertBlobs i).keyedInsert? = some (i, i.binaryColumns) := rfl
  -- Exchanges cannot be compared as they are, since the type of a reply depends on the request.
  have hrun : ((Command.insertBlobs i).step s).exchanges.map
        (fun e => (e.request, e.reportedNumber?))
      = [(i.drawRequest s.config, some 41), (.begin, none),
        (.returning ("insert into files (id, name, body) "
          ++ "values (:1, :2, EMPTY_BLOB()) returning body, id into :3, :4")
          [.int 41, .text "ann"] [.blobLocator "body", .key "id"], none),
        (.rollback, none)] := by decide +kernel
  obtain ⟨draw, es, hes, hdraw, hrun⟩ := List.map_eq_cons_iff.mp hrun
  obtain ⟨begun, es, rfl, _, hrun⟩ := List.map_eq_cons_iff.mp hrun
  obtain ⟨e, after, rfl, he, _⟩ := List.map_eq_cons_iff.mp hrun
  have hrequest := congrArg Prod.fst he
  dsimp only at hrequest
  have hsent : ((Command.insertBlobs i).step s).exchanges = [draw, begun] ++ e :: after := hes
  have hruns : e.request.runs = true := by
    rw [hrequest]
    rfl
  obtain ⟨values, hvalues, hsupplies⟩ := Command.drawn_key_iff s hcommand rfl (Nat.le_refl 1)
    (by decide +kernel) hsent hruns
  refine ⟨_, e, after, values, hsent, hrequest, hvalues, hsupplies.mpr ?_⟩
  refine ⟨List.cons_ne_nil _ _, ?_, ?_⟩
  · exact ⟨draw, List.mem_cons_self, 41, congrArg Prod.snd hdraw, by omega⟩
  · decide +kernel

/-- **An insert of large objects alone runs without a key**, although it is to draw one. -/
theorem Command.blobs_without_drawn_key :
    let i : Insert :=
      { Insert.into "files" with binaryColumns := [("body", [1])], usesSequence := true }
    let s : Session := .start .standard .empty
    i.hasExplicitKey = false ∧
      ∃ before e after, ((Command.insertBlobs i).step s).exchanges = before ++ e :: after ∧
        e.request = .returning
          "insert into files (body) values (EMPTY_BLOB()) returning body, id into :1, :2"
          [] [.blobLocator "body", .key "id"] ∧
        (∀ draw ∈ before, draw.fetches = false) ∧
        ∀ values, ¬ i.SuppliesKey s.config before values := by
  intro i s
  have hrun : ((Command.insertBlobs i).step s).exchanges.map Exchange.request
      = [.begin,
        .returning "insert into files (body) values (EMPTY_BLOB()) returning body, id into :1, :2"
          [] [.blobLocator "body", .key "id"],
        .rollback] := by decide +kernel
  obtain ⟨begun, es, hes, hbegun, hrun⟩ := List.map_eq_cons_iff.mp hrun
  obtain ⟨e, after, rfl, he, _⟩ := List.map_eq_cons_iff.mp hrun
  have hfetches : begun.fetches = false := by
    rw [Exchange.fetches, hbegun]
  refine ⟨rfl, [begun], e, after, hes, he, List.forall_mem_singleton.mpr hfetches, ?_⟩
  rintro values ⟨⟨draw, n, hdraw, _⟩, _⟩
  rw [List.filter_cons_of_neg (by rw [hfetches]; exact Bool.false_ne_true)] at hdraw
  cases hdraw

end OracleSql
