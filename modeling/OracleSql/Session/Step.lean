import OracleSql.Compile
import OracleSql.Session.Connection
import OracleSql.Statement

/-!
# Steps of a session

A `Session` is what is kept between steps: the configuration, the owner of the tables as far as it
is known, and the connection.  A `Step` goes from a session to an `Outcome`: a result or an error,
the session afterwards, and what has happened on the way, that is the exchanges with the database
and the warnings, both in order.  What has happened before an error stays.

`transaction` runs a step between `begin` and `commit`, and rolls back where it fails.
-/

namespace OracleSql

/-- What is kept between the steps of a session. -/
structure Session where
  config : Config
  /-- The schema that the data dictionary is asked about, once it is known. -/
  owner? : Option String
  script : Script

/-- A new session; a configured schema is its owner. -/
def Session.start (c : Config) (script : Script) : Session :=
  ⟨c, c.schemaPrefix, script⟩

structure Outcome (α : Type) where
  result : Except Error α
  session : Session
  exchanges : List Exchange
  warnings : List Warning

def Step (α : Type) := Session → Outcome α

namespace Step

variable {α β : Type}

/-- Run one step and go on with what it yields, if it yields anything. -/
def andThen (x : Step α) (f : α → Step β) : Step β := fun s =>
  let first := x s
  match first.result with
  | .error e => ⟨.error e, first.session, first.exchanges, first.warnings⟩
  | .ok a =>
    let second := f a first.session
    ⟨second.result, second.session, first.exchanges ++ second.exchanges,
      first.warnings ++ second.warnings⟩

instance : Monad Step where
  pure a := fun s => ⟨.ok a, s, [], []⟩
  bind := andThen

def fail (e : Error) : Step α := fun s =>
  ⟨.error e, s, [], []⟩

def warn (w : Warning) : Step Unit := fun s =>
  ⟨.ok (), s, [], [w]⟩

/-- Compile; nothing is asked of the database. -/
def ofCompile (x : Compile α) : Step α := fun s =>
  ⟨x.result.mapError .compile, s, [], x.warnings⟩

def config : Step Config := fun s =>
  ⟨.ok s.config, s, [], []⟩

def knownOwner : Step (Option String) := fun s =>
  ⟨.ok s.owner?, s, [], []⟩

def keepOwner (owner : String) : Step Unit := fun s =>
  ⟨.ok (), { s with owner? := some owner }, [], []⟩

/-- **Ask the database**; a failure is the error of the step. -/
def ask (r : Request) : Step r.Answer := fun s =>
  let (reply, script) := s.script.next r
  ⟨reply.mapError Failure.error, { s with script }, [⟨r, reply⟩], []⟩

/-- Run a step and yield its result, error or not. -/
def attempt (x : Step α) : Step (Except Error α) := fun s =>
  let o := x s
  ⟨.ok o.result, o.session, o.exchanges, o.warnings⟩

/-! ### Statements -/

/-- Execute a text as it stands; the number of affected rows. -/
def executeSql (sql : String) : Step UInt64 :=
  ask (.execute sql [])

/-- Execute a statement; the number of affected rows. -/
def execute (statement : Statement) : Step UInt64 :=
  ask (.execute statement.numberedSql statement.params)

def fetch (statement : Statement) : Step (List Row) :=
  ask (.fetch statement.numberedSql statement.params)

def executeReturning (statement : Statement) : Step (List OutValue) :=
  ask (.returning statement.numberedSql statement.params statement.outputs)

/-! ### Transactions -/

/-- Roll back because of an error, which stays the error of the step even when the rollback fails
too. -/
def rollBack (cause : Error) : Step α := do
  warn (.rollingBack cause)
  match ← attempt (ask .rollback) with
  | .ok () => fail cause
  | .error failure =>
    warn (.rollbackFailed cause failure)
    fail cause

/-- **Run a step within a transaction of its own.** -/
def transaction (body : Step α) : Step α := do
  let _ ← ask .begin
  match ← attempt body with
  | .ok a =>
    let _ ← ask .commit
    return a
  | .error e => rollBack e

/-! ### Laws -/

@[ext] theorem ext {x y : Step α} (h : ∀ s, x s = y s) : x = y :=
  funext h

@[simp] theorem pure_apply (a : α) (s : Session) : (pure a : Step α) s = ⟨.ok a, s, [], []⟩ := rfl

theorem bind_of_ok {x : Step α} {f : α → Step β} {s : Session} {a : α}
    (h : (x s).result = .ok a) :
    (x >>= f) s =
      ⟨(f a (x s).session).result, (f a (x s).session).session,
        (x s).exchanges ++ (f a (x s).session).exchanges,
        (x s).warnings ++ (f a (x s).session).warnings⟩ := by
  simp [bind, andThen, h]

theorem bind_of_error {x : Step α} {f : α → Step β} {s : Session} {e : Error}
    (h : (x s).result = .error e) :
    (x >>= f) s = ⟨.error e, (x s).session, (x s).exchanges, (x s).warnings⟩ := by
  simp [bind, andThen, h]

instance : LawfulMonad Step := LawfulMonad.mk' Step
  (by
    intro α x
    ext1 s
    show (x >>= fun a => pure a) s = x s
    cases h : (x s).result with
    | error e => rw [bind_of_error h, ← h]
    | ok a => rw [bind_of_ok h]; simp [← h])
  (by
    intro α β a f
    ext1 s
    rw [bind_of_ok (a := a) rfl]
    simp)
  (by
    intro α β γ x f g
    ext1 s
    cases hx : (x s).result with
    | error e =>
      have h : ((x >>= f) s).result = .error e := by rw [bind_of_error hx]
      rw [bind_of_error h, bind_of_error hx, bind_of_error hx]
    | ok a =>
      cases hf : (f a (x s).session).result with
      | error e =>
        have h : ((x >>= f) s).result = .error e := by rw [bind_of_ok hx, hf]
        rw [bind_of_error h, bind_of_ok hx, bind_of_ok hx, bind_of_error hf]
      | ok b =>
        have h : ((x >>= f) s).result = .ok b := by rw [bind_of_ok hx, hf]
        rw [bind_of_ok h, bind_of_ok hx, bind_of_ok hx, bind_of_ok hf]
        simp [List.append_assoc])

end Step

end OracleSql
