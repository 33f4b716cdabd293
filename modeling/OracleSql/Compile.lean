import OracleSql.Error

/-!
# Compilation

A compilation yields a result or a `CompileError`, and on the way it may give warnings.  Warnings
are kept in the order in which they arise, and those before an error stay.  They never bear on
the result: `result` commutes with `pure`, `bind` and `throw`, and on it compilation is nothing
but `Except`.
-/

namespace OracleSql

/-- Something worth telling that does not stop a compilation or a step. -/
inductive Warning where
  /-- A generated name was cut; the name before the cut. -/
  | nameTruncated (name : String) (length : Nat)
  /-- A lock leaves no room for the page that the query asks for. -/
  | lockSuppressesPage (table : String)
  /-- A transaction is rolled back because of an error. -/
  | rollingBack (cause : Error)
  /-- The rollback after an error failed too. -/
  | rollbackFailed (cause : Error) (failure : Error)
deriving DecidableEq

def Warning.message : Warning → String
  | nameTruncated name length =>
    "object name '" ++ name ++ "' truncated to " ++ toString length ++ " characters"
  | lockSuppressesPage table => "lock on '" ++ table ++ "' suppresses limit/offset pagination"
  | rollingBack cause => "rolling back: " ++ cause.message
  | rollbackFailed cause failure =>
    "rollback failed after '" ++ cause.message ++ "': " ++ failure.message

/-- A result or an error, and the warnings given before it was reached. -/
structure Compile (α : Type) where
  warnings : List Warning
  result : Except CompileError α

namespace Compile

variable {α β : Type}

instance : Monad Compile where
  pure a := ⟨[], .ok a⟩
  bind x f :=
    match x.result with
    | .error e => ⟨x.warnings, .error e⟩
    | .ok a => ⟨x.warnings ++ (f a).warnings, (f a).result⟩

@[ext] theorem ext {x y : Compile α} (hw : x.warnings = y.warnings) (hr : x.result = y.result) :
    x = y := by
  cases x; cases y; simp_all

theorem id_map (x : Compile α) : id <$> x = x := by
  cases hx : x.result <;> ext1 <;> simp [Functor.map, hx]

theorem pure_bind (a : α) (f : α → Compile β) : pure a >>= f = f a := by
  ext1 <;> simp [bind, pure]

theorem bind_assoc {γ : Type} (x : Compile α) (f : α → Compile β) (g : β → Compile γ) :
    x >>= f >>= g = x >>= fun a => f a >>= g := by
  cases hx : x.result with
  | error e => ext1 <;> simp [bind, hx]
  | ok a => cases hf : (f a).result <;> ext1 <;> simp [bind, hx, hf]

instance : LawfulMonad Compile :=
  LawfulMonad.mk' Compile id_map pure_bind bind_assoc

instance : MonadExceptOf CompileError Compile where
  throw e := ⟨[], .error e⟩
  tryCatch x f :=
    match x.result with
    | .error e => ⟨x.warnings ++ (f e).warnings, (f e).result⟩
    | .ok _ => x

def warn (w : Warning) : Compile Unit :=
  ⟨[w], .ok ()⟩

def warnIf (c : Bool) (w : Warning) : Compile Unit :=
  if c then warn w else pure ()

@[simp] theorem result_pure (a : α) : (pure a : Compile α).result = .ok a := rfl

/-- **Warnings do not bear on the result.** -/
@[simp] theorem result_bind (x : Compile α) (f : α → Compile β) :
    (x >>= f).result = x.result >>= fun a => (f a).result := by
  cases h : x.result <;> simp [bind, h, Except.bind]

/-- A sequence of two compilations yields what the second makes of what the first yields. -/
theorem result_bind_eq_ok {x : Compile α} {f : α → Compile β} {b : β} :
    (x >>= f).result = .ok b ↔ ∃ a, x.result = .ok a ∧ (f a).result = .ok b := by
  cases h : x.result <;> simp [h, bind]

@[simp] theorem result_map (f : α → β) (x : Compile α) :
    (f <$> x).result = f <$> x.result := by
  rw [map_eq_pure_bind, map_eq_pure_bind, result_bind]
  rfl

@[simp] theorem result_throw (e : CompileError) : (throw e : Compile α).result = .error e := rfl

/-- What follows a refusal is never reached. -/
theorem result_throw_bind (e : CompileError) (f : α → Compile β) :
    ((throw e : Compile α) >>= f).result = .error e := rfl

@[simp] theorem result_warn (w : Warning) : (warn w).result = .ok () := rfl

@[simp] theorem result_warnIf (c : Bool) (w : Warning) : (warnIf c w).result = .ok () := by
  cases c <;> rfl

end Compile

end OracleSql
