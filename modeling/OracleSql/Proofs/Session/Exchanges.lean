import OracleSql.Session.Rows

/-!
# What a step exchanges with the database

The equations of `Session/Step.lean` give the outcome of a sequence of steps as a whole.  Here they
are taken apart by component, and the steps that ask something are inverted: `ask_cases` says that a
request is one exchange whose reply is the result, and `transaction_of_begin_ok` what a transaction
exchanges around its body, whatever the replies are.

`AsksOnly` holds of a step whose requests all have a property; it is closed under the operations
that steps are made of, so that each step is checked along its definition.  `OnlyFetches` is the
case of a step that asks for nothing but rows, which is how a key is drawn from a sequence.
-/

namespace OracleSql.Step

variable {α β : Type}

/-! ### One step after another -/

theorem result_bind_of_ok {x : Step α} {f : α → Step β} {s : Session} {a : α}
    (h : (x s).result = .ok a) : ((x >>= f) s).result = (f a (x s).session).result := by
  rw [bind_of_ok h]

theorem session_bind_of_ok {x : Step α} {f : α → Step β} {s : Session} {a : α}
    (h : (x s).result = .ok a) : ((x >>= f) s).session = (f a (x s).session).session := by
  rw [bind_of_ok h]

theorem exchanges_bind_of_ok {x : Step α} {f : α → Step β} {s : Session} {a : α}
    (h : (x s).result = .ok a) :
    ((x >>= f) s).exchanges = (x s).exchanges ++ (f a (x s).session).exchanges := by
  rw [bind_of_ok h]

theorem result_bind_of_error {x : Step α} {f : α → Step β} {s : Session} {e : Error}
    (h : (x s).result = .error e) : ((x >>= f) s).result = .error e := by
  rw [bind_of_error h]

theorem exchanges_bind_of_error {x : Step α} {f : α → Step β} {s : Session} {e : Error}
    (h : (x s).result = .error e) : ((x >>= f) s).exchanges = (x s).exchanges := by
  rw [bind_of_error h]

/-- What becomes of the result of a step does not show in what it exchanges and leaves. -/
theorem bind_pure_apply (x : Step α) (f : α → β) (s : Session) :
    ((x >>= fun a => pure (f a)) s).exchanges = (x s).exchanges ∧
      ((x >>= fun a => pure (f a)) s).session = (x s).session := by
  cases h : (x s).result with
  | error e => rw [bind_of_error h]; exact ⟨rfl, rfl⟩
  | ok a => rw [bind_of_ok h, pure_apply, List.append_nil]; exact ⟨rfl, rfl⟩

theorem result_bind_eq_ok {x : Step α} {f : α → Step β} {s : Session} {b : β}
    (h : ((x >>= f) s).result = .ok b) :
    ∃ a, (x s).result = .ok a ∧ (f a (x s).session).result = .ok b := by
  cases hx : (x s).result with
  | error e =>
    rw [result_bind_of_error hx] at h
    cases h
  | ok a =>
    rw [result_bind_of_ok hx] at h
    exact ⟨a, rfl, h⟩

/-- Only what a step can yield matters to what follows it. -/
theorem bind_apply_congr {x : Step α} {f g : α → Step β} {s : Session}
    (h : ∀ a, (x s).result = .ok a → f a = g a) : (x >>= f) s = (x >>= g) s := by
  cases hx : (x s).result with
  | error e => rw [bind_of_error hx, bind_of_error hx]
  | ok a => rw [bind_of_ok hx, bind_of_ok hx, h a hx]

/-! ### Steps that ask nothing -/

@[simp] theorem config_apply (s : Session) : config s = ⟨.ok s.config, s, [], []⟩ := rfl

@[simp] theorem attempt_apply (x : Step α) (s : Session) :
    attempt x s = ⟨.ok (x s).result, (x s).session, (x s).exchanges, (x s).warnings⟩ := rfl

theorem ofCompile_eq_ok {x : Compile α} {s : Session} {a : α}
    (h : (ofCompile x s).result = .ok a) : x.result = .ok a := by
  rw [ofCompile] at h
  cases hx : x.result with
  | error e =>
    rw [hx] at h
    cases h
  | ok b =>
    rw [hx] at h
    cases h
    rfl

theorem config_bind (f : Config → Step α) (s : Session) : (config >>= f) s = f s.config s := rfl

theorem exchanges_configured_of_ok {compile : Config → Compile α} {f : α → Step β} {s : Session}
    {a : α} (h : (compile s.config).result = .ok a) :
    ((config >>= fun c => ofCompile (compile c) >>= f) s).exchanges = (f a s).exchanges := by
  have hcompile : (ofCompile (compile s.config) s).result = .ok a := by
    rw [ofCompile, h]
    rfl
  rw [config_bind, exchanges_bind_of_ok hcompile]
  rfl

theorem exchanges_configured_of_error {compile : Config → Compile α} {f : α → Step β} {s : Session}
    {e : CompileError} (h : (compile s.config).result = .error e) :
    ((config >>= fun c => ofCompile (compile c) >>= f) s).exchanges = [] := by
  have hcompile : (ofCompile (compile s.config) s).result = .error (.compile e) := by
    rw [ofCompile, h]
    rfl
  rw [config_bind, exchanges_bind_of_error hcompile]
  rfl

/-! ### Asking -/

theorem mapError_ok {ε ε' : Type} (f : ε → ε') (a : α) :
    (Except.ok a : Except ε α).mapError f = .ok a := rfl

theorem mapError_error {ε ε' : Type} (f : ε → ε') (e : ε) :
    (Except.error e : Except ε α).mapError f = .error (f e) := rfl

/-- **A request is one exchange**, and its reply is the result of the step. -/
theorem ask_cases (r : Request) (s : Session) :
    ∃ reply : Reply r.Answer, (ask r s).exchanges = [⟨r, reply⟩] ∧
      (ask r s).result = reply.mapError Failure.error :=
  ⟨(s.script.next r).1, rfl, rfl⟩

theorem ask_of_reply {r : Request} {reply : Reply r.Answer} {s : Session}
    (h : (s.script.next r).1 = reply) :
    (ask r s).exchanges = [⟨r, reply⟩] ∧ (ask r s).result = reply.mapError Failure.error := by
  subst h
  exact ⟨rfl, rfl⟩

/-- What a rollback exchanges; its own failure does not show in the result. -/
theorem rollBack_cases (cause : Error) (s : Session) :
    ∃ reply : Reply Unit, ((rollBack cause : Step α) s).exchanges = [⟨.rollback, reply⟩] ∧
      ((rollBack cause : Step α) s).result = .error cause := by
  obtain ⟨reply, hexchange, hresult⟩ := ask_cases .rollback s
  have hattempt : (attempt (ask .rollback) s).result = .ok (reply.mapError Failure.error) :=
    congrArg Except.ok hresult
  have hexchanges : (attempt (ask .rollback) s).exchanges = [⟨.rollback, reply⟩] := hexchange
  refine ⟨reply, ?_⟩
  rw [rollBack, exchanges_bind_of_ok (a := ()) rfl, result_bind_of_ok (a := ()) rfl,
    show (warn (.rollingBack cause) s).session = s from rfl, exchanges_bind_of_ok hattempt,
    result_bind_of_ok hattempt, hexchanges]
  cases reply with
  | ok u =>
    cases u
    exact ⟨rfl, rfl⟩
  | error f => exact ⟨rfl, rfl⟩

/-- What a commit at the end exchanges; it yields what is there, unless it fails. -/
theorem commit_cases (a : α) (s : Session) :
    ∃ reply : Reply Unit,
      ((ask .commit >>= fun _ => pure a) s).exchanges = [⟨.commit, reply⟩] ∧
        ((ask .commit >>= fun _ => pure a) s).result
          = (reply.mapError Failure.error).map fun _ => a := by
  obtain ⟨reply, hexchange, hresult⟩ := ask_cases .commit s
  refine ⟨reply, ?_⟩
  cases reply with
  | ok u =>
    rw [exchanges_bind_of_ok hresult, result_bind_of_ok hresult, hexchange]
    exact ⟨rfl, rfl⟩
  | error f =>
    rw [exchanges_bind_of_error hresult, result_bind_of_error hresult]
    exact ⟨hexchange, rfl⟩

/-- **What a transaction exchanges once it has begun.**  The body runs, and one exchange ends the
transaction: a commit when the body yields something, whose failure is then the error of the step,
and a rollback when the body fails. -/
theorem transaction_of_begin_ok (body : Step α) {s : Session}
    (h : (s.script.next .begin).1 = .ok ()) :
    ∃ begun : Session, ∃ last : Exchange,
      (transaction body s).exchanges
        = ⟨.begin, .ok ()⟩ :: ((body begun).exchanges ++ [last]) ∧
      ((∃ a, (body begun).result = .ok a ∧ ∃ reply : Reply Unit, last = ⟨.commit, reply⟩ ∧
          (transaction body s).result = (reply.mapError Failure.error).map fun _ => a) ∨
        ∃ e, (body begun).result = .error e ∧ (∃ reply : Reply Unit, last = ⟨.rollback, reply⟩) ∧
          (transaction body s).result = .error e) := by
  obtain ⟨hexchange, hresult⟩ := ask_of_reply h
  refine ⟨(ask .begin s).session, ?_⟩
  rw [transaction, exchanges_bind_of_ok hresult, result_bind_of_ok hresult, hexchange]
  generalize (ask .begin s).session = begun
  cases hbody : (body begun).result with
  | ok a =>
    have hattempt : (attempt body begun).result = .ok (.ok a) := by rw [attempt_apply, hbody]
    obtain ⟨reply, hcommit, hlast⟩ := commit_cases a (body begun).session
    rw [exchanges_bind_of_ok hattempt, result_bind_of_ok hattempt]
    exact ⟨⟨.commit, reply⟩,
      congrArg (fun l => (⟨.begin, .ok ()⟩ : Exchange) :: ((body begun).exchanges ++ l)) hcommit,
      Or.inl ⟨a, rfl, reply, rfl, hlast⟩⟩
  | error e =>
    have hattempt : (attempt body begun).result = .ok (.error e) := by rw [attempt_apply, hbody]
    obtain ⟨reply, hrollback, hlast⟩ := rollBack_cases (α := α) e (body begun).session
    rw [exchanges_bind_of_ok hattempt, result_bind_of_ok hattempt]
    exact ⟨⟨.rollback, reply⟩,
      congrArg (fun l => (⟨.begin, .ok ()⟩ : Exchange) :: ((body begun).exchanges ++ l)) hrollback,
      Or.inr ⟨e, rfl, ⟨reply, rfl⟩, hlast⟩⟩

/-! ### Steps by what they ask -/

/-- What leaves the configuration alone may be put together. -/
theorem keepsConfig_bind {x : Step α} {f : α → Step β}
    (hx : ∀ s, (x s).session.config = s.config)
    (hf : ∀ a s, (f a s).session.config = s.config) (s : Session) :
    ((x >>= f) s).session.config = s.config := by
  cases h : (x s).result with
  | error e => rw [bind_of_error h, hx]
  | ok a => rw [session_bind_of_ok h, hf, hx]

/-- A step whose requests all have a property, and which leaves the configuration alone. -/
structure AsksOnly (p : Request → Prop) (x : Step α) : Prop where
  config : ∀ s, (x s).session.config = s.config
  request : ∀ s, ∀ e ∈ (x s).exchanges, p e.request

namespace AsksOnly

variable {p : Request → Prop}

theorem of_silent {x : Step α} (hconfig : ∀ s, (x s).session.config = s.config)
    (h : ∀ s, (x s).exchanges = []) : AsksOnly p x :=
  ⟨hconfig, fun s e he => by rw [h s] at he; cases he⟩

theorem pure (a : α) : AsksOnly p (Pure.pure a : Step α) :=
  of_silent (fun _ => rfl) fun _ => rfl

theorem fail (e : Error) : AsksOnly p (Step.fail e : Step α) :=
  of_silent (fun _ => rfl) fun _ => rfl

theorem warn (w : Warning) : AsksOnly p (Step.warn w) :=
  of_silent (fun _ => rfl) fun _ => rfl

theorem configuration : AsksOnly p Step.config :=
  of_silent (fun _ => rfl) fun _ => rfl

theorem ofCompile (x : Compile α) : AsksOnly p (Step.ofCompile x) :=
  of_silent (fun _ => rfl) fun _ => rfl

theorem ask {r : Request} (h : p r) : AsksOnly p (Step.ask r) := by
  refine ⟨fun _ => rfl, fun s e he => ?_⟩
  obtain ⟨reply, hexchange, _⟩ := ask_cases r s
  rw [hexchange, List.mem_singleton] at he
  rw [he]
  exact h

theorem bind {x : Step α} {f : α → Step β} (hx : AsksOnly p x) (hf : ∀ a, AsksOnly p (f a)) :
    AsksOnly p (x >>= f) := by
  refine ⟨keepsConfig_bind hx.config fun a => (hf a).config, fun s e he => ?_⟩
  cases h : (x s).result with
  | error _ =>
    rw [exchanges_bind_of_error h] at he
    exact hx.request s e he
  | ok a =>
    rw [exchanges_bind_of_ok h] at he
    rcases List.mem_append.mp he with he | he
    · exact hx.request s e he
    · exact (hf a).request _ e he

theorem wrapped {x : Step α} (hx : AsksOnly p x) (f : α → β) :
    AsksOnly p (x >>= fun a => Pure.pure (f a)) :=
  hx.bind fun _ => pure _

theorem attempt {x : Step α} (hx : AsksOnly p x) : AsksOnly p (Step.attempt x) :=
  ⟨hx.config, hx.request⟩

theorem forM {f : α → Step PUnit} (hf : ∀ a, AsksOnly p (f a)) (xs : List α) :
    AsksOnly p (xs.forM f) := by
  induction xs with
  | nil => exact pure _
  | cons a rest ih => exact (hf a).bind fun _ => ih

/-- A step that compiles with the configuration of the session and goes on. -/
theorem configured {compile : Config → Compile α} {f : α → Step β} (hf : ∀ a, AsksOnly p (f a)) :
    AsksOnly p (Step.config >>= fun c => Step.ofCompile (compile c) >>= f) :=
  configuration.bind fun c => (ofCompile (compile c)).bind hf

theorem rollBack (hp : p .rollback) (cause : Error) :
    AsksOnly p (Step.rollBack cause : Step α) := by
  refine (warn _).bind fun _ => (ask hp).attempt.bind fun result => ?_
  cases result with
  | ok _ => exact fail cause
  | error failure => exact (warn _).bind fun _ => fail cause

theorem transaction {body : Step α} (hbegin : p .begin) (hcommit : p .commit)
    (hrollback : p .rollback) (hbody : AsksOnly p body) : AsksOnly p (Step.transaction body) := by
  refine (ask hbegin).bind fun _ => hbody.attempt.bind fun result => ?_
  cases result with
  | ok a => exact (ask hcommit).bind fun _ => pure a
  | error e => exact rollBack hrollback e

end AsksOnly

/-! ### Steps that only look at rows -/

/-- A step that asks for nothing but rows, and leaves the configuration alone. -/
structure OnlyFetches (x : Step α) : Prop where
  config : ∀ s, (x s).session.config = s.config
  fetch : ∀ s, ∀ e ∈ (x s).exchanges, ∃ sql params, e.request = .fetch sql params

theorem onlyFetches_iff {x : Step α} :
    OnlyFetches x ↔ AsksOnly (fun r => ∃ sql params, r = .fetch sql params) x :=
  ⟨fun h => ⟨h.config, h.fetch⟩, fun h => ⟨h.config, h.request⟩⟩

namespace OnlyFetches

theorem pure (a : α) : OnlyFetches (Pure.pure a : Step α) :=
  onlyFetches_iff.mpr (.pure a)

theorem configuration : OnlyFetches Step.config :=
  onlyFetches_iff.mpr .configuration

theorem fail (e : Error) : OnlyFetches (Step.fail e : Step α) :=
  onlyFetches_iff.mpr (.fail e)

theorem ofCompile (x : Compile α) : OnlyFetches (Step.ofCompile x) :=
  onlyFetches_iff.mpr (.ofCompile x)

theorem rows (statement : Statement) : OnlyFetches (Step.fetch statement) :=
  onlyFetches_iff.mpr (.ask ⟨_, _, rfl⟩)

theorem bind {x : Step α} {f : α → Step β} (hx : OnlyFetches x) (hf : ∀ a, OnlyFetches (f a)) :
    OnlyFetches (x >>= f) :=
  onlyFetches_iff.mpr ((onlyFetches_iff.mp hx).bind fun a => onlyFetches_iff.mp (hf a))

end OnlyFetches

theorem onlyFetches_nextNumber (name : String) : OnlyFetches (nextNumber name) := by
  refine OnlyFetches.configuration.bind fun c => (OnlyFetches.rows _).bind fun rows => ?_
  split
  · exact OnlyFetches.pure _
  · exact OnlyFetches.fail _

/-- Giving an insert its key asks for rows only. -/
theorem onlyFetches_assignKey (i : Insert) : OnlyFetches (assignKey i) := by
  rw [assignKey]
  split
  · refine OnlyFetches.configuration.bind fun c => (OnlyFetches.ofCompile _).bind fun name => ?_
    exact (onlyFetches_nextNumber name).bind fun n => OnlyFetches.pure _
  · exact OnlyFetches.pure _

/-- Giving an insert its key changes nothing but its rows. -/
theorem assignKey_eq_ok {i i' : Insert} {s : Session} (h : (assignKey i s).result = .ok i') :
    i'.binaryColumns = i.binaryColumns ∧ i'.keyColumn = i.keyColumn := by
  rw [assignKey] at h
  split at h
  · obtain ⟨c, _, h⟩ := result_bind_eq_ok h
    obtain ⟨name, _, h⟩ := result_bind_eq_ok h
    obtain ⟨n, _, h⟩ := result_bind_eq_ok h
    cases h
    exact ⟨rfl, rfl⟩
  · cases h
    exact ⟨rfl, rfl⟩

end OracleSql.Step
