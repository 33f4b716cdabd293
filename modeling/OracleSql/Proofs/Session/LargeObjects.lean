import OracleSql.Proofs.Session.Exchanges
import OracleSql.Proofs.Write.Outputs

/-!
# Writing large objects

A write of large objects runs its statement, writes the content of each column into the locator
that the statement has returned for it, and commits; all within one transaction.  Locators are
matched with columns by position only, so `Proofs/Write/Outputs.lean` is one half of the argument:
the statement asks for the locators in the order of the columns.  The other half is here.
`Writing` says how the writing of columns goes, whatever the replies are, and `AtomicWrite` what a
whole write exchanges once its transaction has begun.

`BlobWrite.step_atomic` joins the two.
-/

namespace OracleSql

open Step

/-- The locator among the outputs at a place. -/
def locatorAt (outputs : List OutValue) (k : Nat) : Option Locator :=
  outputs[k]?.bind OutValue.locator?

/-! ### Writing columns in order -/

/-- How the writing of columns into the locators among the outputs goes: the exchanges, and the
result. -/
inductive Writing : BinaryColumns → List OutValue → List Exchange → Except Error Unit → Prop
  | done (outputs : List OutValue) : Writing [] outputs [] (.ok ())
  | missing {column : String} {content : List UInt8} {rest : BinaryColumns}
      {outputs : List OutValue} (h : locatorAt outputs 0 = none) :
      Writing ((column, content) :: rest) outputs []
        (.error (.lobWrite column "no locator returned"))
  | failed {column : String} {content : List UInt8} {rest : BinaryColumns}
      {outputs : List OutValue} {l : Locator} (h : locatorAt outputs 0 = some l) (f : Failure) :
      Writing ((column, content) :: rest) outputs [⟨.writeBlob l content, .error f⟩]
        (.error (.lobWrite column f.error.message))
  | written {column : String} {content : List UInt8} {rest : BinaryColumns}
      {outputs : List OutValue} {l : Locator} {writes : List Exchange} {result : Except Error Unit}
      (h : locatorAt outputs 0 = some l) (hrest : Writing rest outputs.tail writes result) :
      Writing ((column, content) :: rest) outputs (⟨.writeBlob l content, .ok ()⟩ :: writes) result

/-- **The loop over the columns is such a writing**, whatever the replies are. -/
theorem writing_writeBlobs (binary : BinaryColumns) (outputs : List OutValue) (s : Session) :
    Writing binary outputs (writeBlobs binary outputs s).exchanges
      (writeBlobs binary outputs s).result := by
  induction binary generalizing outputs s with
  | nil => exact .done outputs
  | cons first rest ih =>
    obtain ⟨column, content⟩ := first
    have hat : outputs.head?.bind OutValue.locator? = locatorAt outputs 0 := by
      rw [locatorAt, List.head?_eq_getElem?]
    rw [writeBlobs, hat]
    cases hlocator : locatorAt outputs 0 with
    | none => exact .missing hlocator
    | some l =>
      obtain ⟨reply, hexchange, hresult⟩ := ask_cases (.writeBlob l content) s
      have hattempt : (attempt (ask (.writeBlob l content)) s).result
          = .ok (reply.mapError Failure.error) := by
        rw [attempt_apply, hresult]
      dsimp only
      rw [exchanges_bind_of_ok hattempt, result_bind_of_ok hattempt, attempt_apply, hexchange]
      cases reply with
      | error f => exact .failed hlocator f
      | ok u => exact .written hlocator (ih outputs.tail _)

namespace Writing

variable {binary : BinaryColumns} {outputs : List OutValue} {writes : List Exchange}
  {result : Except Error Unit}

theorem locatorAt_tail (outputs : List OutValue) (k : Nat) :
    locatorAt outputs.tail k = locatorAt outputs (k + 1) := by
  rw [locatorAt, locatorAt, List.getElem?_tail]

/-- No column is written twice. -/
theorem length_le (h : Writing binary outputs writes result) : writes.length ≤ binary.length := by
  induction h with
  | done => exact Nat.le_refl _
  | missing => exact Nat.zero_le _
  | failed => exact Nat.succ_le_succ (Nat.zero_le _)
  | written _ _ ih => exact Nat.succ_le_succ ih

/-- **The columns are written in order**, each into the locator at its place. -/
theorem request (h : Writing binary outputs writes result) (k : Nat) (hk : k < writes.length) :
    ∃ column content l, binary[k]? = some (column, content) ∧ locatorAt outputs k = some l ∧
      writes[k].request = .writeBlob l content := by
  induction h generalizing k with
  | done => exact absurd hk (Nat.not_lt_zero k)
  | missing => exact absurd hk (Nat.not_lt_zero k)
  | failed hlocator =>
    have : k = 0 := by simpa using hk
    subst this
    exact ⟨_, _, _, rfl, hlocator, rfl⟩
  | written hlocator _ ih =>
    cases k with
    | zero => exact ⟨_, _, _, rfl, hlocator, rfl⟩
    | succ k =>
      obtain ⟨column, content, l, hcolumn, hl, hrequest⟩ := ih k (Nat.lt_of_succ_lt_succ hk)
      rw [locatorAt_tail] at hl
      exact ⟨column, content, l, hcolumn, hl, hrequest⟩

/-- All columns are written exactly when each has a locator and no write fails. -/
theorem result_ok_iff (h : Writing binary outputs writes result) :
    result = .ok () ↔
      (∀ k < binary.length, (locatorAt outputs k).isSome) ∧ ∀ w ∈ writes, w.succeeds := by
  induction h with
  | done => simp
  | missing hlocator =>
    simp only [reduceCtorEq, false_iff, not_and]
    intro hall
    have := hall 0 (Nat.succ_pos _)
    rw [hlocator] at this
    cases this
  | failed _ f => simp [Exchange.succeeds]
  | written hlocator _ ih =>
    rw [ih]
    constructor
    · rintro ⟨hall, hwrites⟩
      refine ⟨fun k hk => ?_, fun w hw => ?_⟩
      · cases k with
        | zero => rw [hlocator]; rfl
        | succ k =>
          rw [← locatorAt_tail]
          exact hall k (Nat.lt_of_succ_lt_succ hk)
      · rcases List.mem_cons.mp hw with rfl | hw
        · rfl
        · exact hwrites w hw
    · rintro ⟨hall, hwrites⟩
      refine ⟨fun k hk => ?_, fun w hw => hwrites w (List.mem_cons_of_mem _ hw)⟩
      rw [locatorAt_tail]
      exact hall (k + 1) (Nat.succ_lt_succ hk)

/-- When all columns are written, there is a write for each. -/
theorem length_of_ok (h : Writing binary outputs writes result) (hok : result = .ok ()) :
    writes.length = binary.length := by
  induction h with
  | done => rfl
  | missing => cases hok
  | failed => cases hok
  | written _ _ ih => exact congrArg Nat.succ (ih hok)

theorem result_of_missing (h : Writing binary outputs writes result) {j : Nat} {column : String}
    {content : List UInt8} (hcolumn : binary[j]? = some (column, content))
    (hbefore : ∀ k < j, (locatorAt outputs k).isSome) (hj : locatorAt outputs j = none)
    (hwrites : ∀ w ∈ writes, w.succeeds) :
    writes.length = j ∧ result = .error (.lobWrite column "no locator returned") := by
  induction h generalizing j with
  | done => cases hcolumn
  | missing hlocator =>
    cases j with
    | zero =>
      cases hcolumn
      exact ⟨rfl, rfl⟩
    | succ j =>
      have hfirst := hbefore 0 (Nat.succ_pos j)
      rw [hlocator] at hfirst
      cases hfirst
  | failed _ f =>
    have hfirst := hwrites _ List.mem_cons_self
    cases hfirst
  | written hlocator _ ih =>
    cases j with
    | zero =>
      rw [hlocator] at hj
      cases hj
    | succ j =>
      obtain ⟨hlength, hresult⟩ := ih hcolumn
        (fun k hk => by
          rw [locatorAt_tail]
          exact hbefore (k + 1) (Nat.succ_lt_succ hk))
        (by rw [locatorAt_tail, hj])
        (fun w hw => hwrites w (List.mem_cons_of_mem _ hw))
      exact ⟨congrArg Nat.succ hlength, hresult⟩

theorem result_of_failed (h : Writing binary outputs writes result) {j : Nat} {l : Locator}
    {column : String} {content : List UInt8} {f : Failure}
    (hcolumn : binary[j]? = some (column, content))
    (hj : writes[j]? = some ⟨.writeBlob l content, .error f⟩) :
    writes.length = j + 1 ∧ result = .error (.lobWrite column f.error.message) := by
  induction h generalizing j with
  | done => cases hcolumn
  | missing => cases hj
  | failed _ f' =>
    cases j with
    | zero =>
      cases hcolumn
      cases hj
      exact ⟨rfl, rfl⟩
    | succ j => cases hj
  | written _ _ ih =>
    cases j with
    | zero => cases hj
    | succ j =>
      obtain ⟨hlength, hresult⟩ := ih hcolumn hj
      exact ⟨congrArg Nat.succ hlength, hresult⟩

end Writing

/-! ### A whole write -/

/-- What a write of large objects does once its transaction has begun: the reply to its statement,
the writes, the exchange that ends the transaction, and the result of the step. -/
structure AtomicWrite (binary : BinaryColumns) (received : Reply (List OutValue))
    (writes : List Exchange) (last : Exchange) (result : Except Error (Option Int64)) : Prop where
  /-- A statement that fails is answered with its own error. -/
  received_error : ∀ f, received = .error f → writes = [] ∧ result = .error f.error
  length_le : writes.length ≤ binary.length
  /-- The columns are written in order, each into the locator at its place. -/
  write : ∀ (k : Nat) (hk : k < writes.length), ∃ outputs column content l,
    received = .ok outputs ∧ binary[k]? = some (column, content) ∧
      locatorAt outputs k = some l ∧ writes[k].request = .writeBlob l content
  last_request : last.request = .commit ∨ last.request = .rollback
  commit_iff : last.request = .commit ↔
    ∃ outputs, received = .ok outputs ∧ (∀ k < binary.length, (locatorAt outputs k).isSome) ∧
      ∀ w ∈ writes, w.succeeds
  length_of_commit : last.request = .commit → writes.length = binary.length
  ok_iff : (∃ key, result = .ok key) ↔ last.request = .commit ∧ last.succeeds
  /-- The key is the output behind the locators. -/
  key : ∀ key, result = .ok key →
    ∃ outputs, received = .ok outputs ∧ key = outputs[binary.length]?.bind OutValue.int64?
  /-- A column without a locator is told in the error. -/
  missing : ∀ outputs j column content, received = .ok outputs →
    binary[j]? = some (column, content) → (∀ k < j, (locatorAt outputs k).isSome) →
      locatorAt outputs j = none → (∀ w ∈ writes, w.succeeds) →
        writes.length = j ∧ result = .error (.lobWrite column "no locator returned")
  /-- So is a column whose write fails. -/
  failed : ∀ j column content l f, binary[j]? = some (column, content) →
    writes[j]? = some ⟨.writeBlob l content, .error f⟩ →
      writes.length = j + 1 ∧ result = .error (.lobWrite column f.error.message)
  commit_error : ∀ f, last = ⟨.commit, .error f⟩ → result = .error f.error

namespace AtomicWrite

variable {binary : BinaryColumns} {outputs : List OutValue} {writes : List Exchange}

theorem of_received_error (binary : BinaryColumns) (f : Failure) (reply : Reply Unit) :
    AtomicWrite binary (.error f) [] ⟨.rollback, reply⟩ (.error f.error) where
  received_error _ hf := by
    cases hf
    exact ⟨rfl, rfl⟩
  length_le := Nat.zero_le _
  write _ hk := absurd hk (Nat.not_lt_zero _)
  last_request := Or.inr rfl
  commit_iff := by simp
  length_of_commit h := by cases h
  ok_iff := by simp
  key _ h := by cases h
  missing _ _ _ _ h := by cases h
  failed _ _ _ _ _ _ h := by cases h
  commit_error _ h := by cases h

theorem of_writing_error {e : Error} (h : Writing binary outputs writes (.error e))
    (reply : Reply Unit) :
    AtomicWrite binary (.ok outputs) writes ⟨.rollback, reply⟩ (.error e) where
  received_error _ hf := by cases hf
  length_le := h.length_le
  write k hk := by
    obtain ⟨column, content, l, hcolumn, hl, hrequest⟩ := h.request k hk
    exact ⟨outputs, column, content, l, rfl, hcolumn, hl, hrequest⟩
  last_request := Or.inr rfl
  commit_iff := by
    constructor
    · intro hcommit
      cases hcommit
    · rintro ⟨_, houtputs, hall⟩
      cases houtputs
      cases h.result_ok_iff.mpr hall
  length_of_commit hcommit := by cases hcommit
  ok_iff := by simp
  key _ hkey := by cases hkey
  missing _ _ _ _ houtputs hcolumn hbefore hj hwrites := by
    cases houtputs
    obtain ⟨hlength, hresult⟩ := h.result_of_missing hcolumn hbefore hj hwrites
    cases hresult
    exact ⟨hlength, rfl⟩
  failed _ _ _ _ _ hcolumn hj := by
    obtain ⟨hlength, hresult⟩ := h.result_of_failed hcolumn hj
    cases hresult
    exact ⟨hlength, rfl⟩
  commit_error _ hlast := by cases hlast

theorem of_writing_ok (h : Writing binary outputs writes (.ok ())) (reply : Reply Unit) :
    AtomicWrite binary (.ok outputs) writes ⟨.commit, reply⟩
      ((reply.mapError Failure.error).map fun _ =>
        outputs[binary.length]?.bind OutValue.int64?) where
  received_error _ hf := by cases hf
  length_le := h.length_le
  write k hk := by
    obtain ⟨column, content, l, hcolumn, hl, hrequest⟩ := h.request k hk
    exact ⟨outputs, column, content, l, rfl, hcolumn, hl, hrequest⟩
  last_request := Or.inl rfl
  commit_iff := by
    constructor
    · intro _
      exact ⟨outputs, rfl, h.result_ok_iff.mp rfl⟩
    · intro _
      rfl
  length_of_commit _ := h.length_of_ok rfl
  ok_iff := by
    cases reply with
    | ok _ => simp [mapError_ok, Except.map, Exchange.succeeds]
    | error f => simp [mapError_error, Except.map, Exchange.succeeds]
  key key hkey := by
    cases reply with
    | ok _ =>
      cases hkey
      exact ⟨outputs, rfl, rfl⟩
    | error f => cases hkey
  missing _ _ _ _ houtputs hcolumn hbefore hj hwrites := by
    cases houtputs
    obtain ⟨_, hresult⟩ := h.result_of_missing hcolumn hbefore hj hwrites
    cases hresult
  failed _ _ _ _ _ hcolumn hj := by
    obtain ⟨_, hresult⟩ := h.result_of_failed hcolumn hj
    cases hresult
  commit_error f hlast := by
    cases hlast
    rfl

end AtomicWrite

/-- What runs within the transaction of a write of large objects. -/
def blobBody (statement : Statement) (binary : BinaryColumns) : Step (Option Int64) := do
  let outputs ← executeReturning statement
  writeBlobs binary outputs
  return outputs[binary.length]?.bind OutValue.int64?

/-- The statement is executed first, and the columns are written when it has returned. -/
theorem blobBody_cases (statement : Statement) (binary : BinaryColumns) (s : Session) :
    ∃ (received : Reply (List OutValue)) (writes : List Exchange),
      (blobBody statement binary s).exchanges
        = ⟨.returning statement.numberedSql statement.params statement.outputs, received⟩
          :: writes ∧
      ((∃ f, received = .error f ∧ writes = [] ∧
          (blobBody statement binary s).result = .error f.error) ∨
        ∃ (outputs : List OutValue) (written : Except Error Unit), received = .ok outputs ∧
          Writing binary outputs writes written ∧
          (blobBody statement binary s).result
            = written.map fun _ => outputs[binary.length]?.bind OutValue.int64?) := by
  obtain ⟨received, hexchange, hresult⟩ :=
    ask_cases (.returning statement.numberedSql statement.params statement.outputs) s
  change (executeReturning statement s).exchanges = _ at hexchange
  change (executeReturning statement s).result = _ at hresult
  refine ⟨received, ?_⟩
  rw [blobBody]
  cases received with
  | error f =>
    rw [exchanges_bind_of_error hresult, result_bind_of_error hresult, hexchange]
    exact ⟨[], rfl, Or.inl ⟨f, rfl, rfl, rfl⟩⟩
  | ok outputs =>
    rw [exchanges_bind_of_ok hresult, result_bind_of_ok hresult, hexchange]
    have hwriting := writing_writeBlobs binary outputs (executeReturning statement s).session
    cases hwritten : (writeBlobs binary outputs (executeReturning statement s).session).result with
    | error e =>
      rw [hwritten] at hwriting
      rw [exchanges_bind_of_error hwritten, result_bind_of_error hwritten]
      exact ⟨_, rfl, Or.inr ⟨outputs, _, rfl, hwriting, rfl⟩⟩
    | ok u =>
      rw [hwritten] at hwriting
      rw [exchanges_bind_of_ok hwritten, result_bind_of_ok hwritten, pure_apply, List.append_nil]
      exact ⟨_, rfl, Or.inr ⟨outputs, _, rfl, hwriting, rfl⟩⟩

/-- **A write through locators is atomic**, once its transaction has begun. -/
theorem writeThroughLocators_atomic (statement : Statement) (binary : BinaryColumns) {s : Session}
    (h : (s.script.next .begin).1 = .ok ()) :
    ∃ (received : Reply (List OutValue)) (writes : List Exchange) (last : Exchange),
      (writeThroughLocators statement binary s).exchanges
        = ⟨.begin, .ok ()⟩
          :: ⟨.returning statement.numberedSql statement.params statement.outputs, received⟩
          :: (writes ++ [last]) ∧
      AtomicWrite binary received writes last (writeThroughLocators statement binary s).result := by
  obtain ⟨begun, last, hexchanges, hend⟩ :=
    transaction_of_begin_ok (blobBody statement binary) h
  obtain ⟨received, writes, hbody, hcases⟩ := blobBody_cases statement binary begun
  rw [hbody] at hexchanges
  refine ⟨received, writes, last, hexchanges, ?_⟩
  change AtomicWrite binary received writes last (transaction (blobBody statement binary) s).result
  rcases hend with ⟨key, hok, reply, rfl, hresult⟩ | ⟨e, herror, ⟨reply, rfl⟩, hresult⟩
  · rw [hresult]
    rcases hcases with ⟨f, _, _, hfailed⟩ | ⟨outputs, written, rfl, hwriting, hwritten⟩
    · rw [hok] at hfailed
      cases hfailed
    · cases written with
      | error _ =>
        rw [hok] at hwritten
        cases hwritten
      | ok u =>
        rw [hok] at hwritten
        cases hwritten
        exact .of_writing_ok hwriting reply
  · rw [hresult]
    rcases hcases with ⟨f, rfl, rfl, hfailed⟩ | ⟨outputs, written, rfl, hwriting, hwritten⟩
    · rw [herror] at hfailed
      cases hfailed
      exact .of_received_error binary f reply
    · cases written with
      | error _ =>
        rw [herror] at hwritten
        cases hwritten
        exact .of_writing_error hwriting reply
      | ok u =>
        rw [herror] at hwritten
        cases hwritten

/-! ### Inserts and updates -/

/-- A write with large binary columns. -/
inductive BlobWrite where
  | insert (i : Insert)
  | update (u : Update)

namespace BlobWrite

def binaryColumns : BlobWrite → BinaryColumns
  | insert i => i.binaryColumns
  | update u => u.binaryColumns

def keyColumn : BlobWrite → String
  | insert i => i.keyColumn
  | update u => u.keyColumn

def step : BlobWrite → Step (Option Int64)
  | insert i => insertBlobs i
  | update u => updateBlobs u

/-- What comes before the transaction: an insert may draw its key, and the statement is compiled. -/
def prepare : BlobWrite → Step Statement
  | insert i => do
    let i ← assignKey i
    ofCompile (i.compileBlobs (← config))
  | update u => do ofCompile (u.compileBlobs (← config))

/-- The preparation asks for nothing but the number of a sequence. -/
theorem onlyFetches_prepare (w : BlobWrite) : OnlyFetches w.prepare := by
  cases w with
  | insert i =>
    refine (onlyFetches_assignKey i).bind fun i => ?_
    exact OnlyFetches.configuration.bind fun c => OnlyFetches.ofCompile _
  | update u => exact OnlyFetches.configuration.bind fun c => OnlyFetches.ofCompile _

/-- The statement asks for the locators in the order of the columns, and behind them the key. -/
theorem outputs_prepare {w : BlobWrite} {s : Session} {statement : Statement}
    (hbinary : w.binaryColumns ≠ []) (h : (w.prepare s).result = .ok statement) :
    statement.outputs
      = w.binaryColumns.map (fun column => OutBinding.blobLocator column.1)
        ++ [OutBinding.key w.keyColumn] := by
  cases w with
  | insert i =>
    obtain ⟨i', hassigned, h⟩ := result_bind_eq_ok h
    obtain ⟨c, _, h⟩ := result_bind_eq_ok h
    obtain ⟨hcolumns, hkey⟩ := assignKey_eq_ok hassigned
    rw [Insert.outputs_compileBlobs (by rw [hcolumns]; exact hbinary) (ofCompile_eq_ok h),
      locatorBinds, hcolumns, hkey]
    rfl
  | update u =>
    obtain ⟨c, _, h⟩ := result_bind_eq_ok h
    exact Update.outputs_compileBlobs hbinary (ofCompile_eq_ok h)

theorem step_eq {w : BlobWrite} (hbinary : w.binaryColumns ≠ []) :
    w.step = w.prepare >>= fun statement => writeThroughLocators statement w.binaryColumns := by
  cases w with
  | insert i =>
    have hsome : ¬i.binaryColumns.isEmpty = true := by simpa [binaryColumns] using hbinary
    rw [step, insertBlobs, if_neg hsome, prepare, bind_assoc]
    ext1 s
    refine bind_apply_congr fun i' hassigned => ?_
    rw [binaryColumns, bind_assoc, (assignKey_eq_ok hassigned).1]
  | update u =>
    have hsome : ¬u.binaryColumns.isEmpty = true := by simpa [binaryColumns] using hbinary
    rw [step, updateBlobs, if_neg hsome, prepare, bind_assoc]
    rfl

/-- **A write of large objects is atomic.**  When its statement compiles and its transaction
begins, the statement is executed, the columns are written in order, each into the locator that
the statement has returned for it, and the last exchange commits or rolls back, as `AtomicWrite`
says. -/
theorem step_atomic (w : BlobWrite) (s : Session) (statement : Statement)
    (hbinary : w.binaryColumns ≠ []) (hcompiles : (w.prepare s).result = .ok statement)
    (hbegin : ((w.prepare s).session.script.next .begin).1 = .ok ()) :
    statement.outputs
        = w.binaryColumns.map (fun column => OutBinding.blobLocator column.1)
          ++ [OutBinding.key w.keyColumn] ∧
      (∀ e ∈ (w.prepare s).exchanges, ∃ sql params, e.request = .fetch sql params) ∧
      ∃ (received : Reply (List OutValue)) (writes : List Exchange) (last : Exchange),
        (w.step s).exchanges
          = (w.prepare s).exchanges ++ ⟨.begin, .ok ()⟩
            :: ⟨.returning statement.numberedSql statement.params statement.outputs, received⟩
            :: (writes ++ [last]) ∧
        AtomicWrite w.binaryColumns received writes last (w.step s).result := by
  refine ⟨outputs_prepare hbinary hcompiles, (onlyFetches_prepare w).fetch s, ?_⟩
  obtain ⟨received, writes, last, hexchanges, hatomic⟩ :=
    writeThroughLocators_atomic statement w.binaryColumns hbegin
  rw [step_eq hbinary, exchanges_bind_of_ok hcompiles, result_bind_of_ok hcompiles, hexchanges]
  exact ⟨received, writes, last, rfl, hatomic⟩

/-- Two columns of which the second cannot be written, and then the rollback fails too. -/
theorem step_atomic_two :
    let w : BlobWrite :=
      .insert { Insert.into "files" with binaryColumns := [("body", [1, 2]), ("thumb", [3])] }
    let s := Session.start .standard
      { Script.empty with
        outputs := [.ok [.locator ⟨"body", 1⟩, .locator ⟨"thumb", 2⟩, .int 7]]
        blobs := [.ok (), .error (.execution "no space")]
        rollbacks := [.error (.database "gone")] }
    ∃ statement : Statement, (w.prepare s).result = .ok statement ∧
      statement.outputs = [.blobLocator "body", .blobLocator "thumb", .key "id"] ∧
      ∃ (received : Reply (List OutValue)) (writes : List Exchange) (last : Exchange),
        (w.step s).exchanges
          = (w.prepare s).exchanges ++ ⟨.begin, .ok ()⟩
            :: ⟨.returning statement.numberedSql statement.params statement.outputs, received⟩
            :: (writes ++ [last]) ∧
        AtomicWrite w.binaryColumns received writes last (w.step s).result := by
  intro w s
  have hcompiles : ∃ statement, (w.prepare s).result = .ok statement := ⟨_, rfl⟩
  obtain ⟨statement, hcompiles⟩ := hcompiles
  obtain ⟨houtputs, _, hstep⟩ :=
    step_atomic w s statement (by simp [w, binaryColumns]) hcompiles rfl
  exact ⟨statement, hcompiles, houtputs, hstep⟩

end BlobWrite

end OracleSql
