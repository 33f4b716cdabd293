import OracleSql.Session.Connection

/-!
# Open transactions

Whether a transaction is open is read off the exchanges with the database: a begin that succeeds
opens one, and a commit that succeeds or a rollback ends it (`openAfter`).  `settled_iff` ties this
reading to what it is for: none is open at the end exactly when every begin that has succeeded is
followed by an end.

`Transacted` is the form that the exchanges of a step have: at most one transaction, at the end.  A
commit that fails ends nothing, and it is the last exchange of its step, so such a step is settled
unless its commit fails (`Transacted.settled_iff`).
-/

namespace OracleSql

/-! ### Begin and end -/

def Request.isTransactional : Request → Bool
  | .begin | .commit | .rollback => true
  | _ => false

namespace Exchange

def Opens (e : Exchange) : Prop :=
  e.request = .begin ∧ e.succeeds = true

/-- The exchange has ended the transaction: a commit that has succeeded, or a rollback. -/
def Closes (e : Exchange) : Prop :=
  (e.request = .commit ∧ e.succeeds = true) ∨ e.request = .rollback

def leavesOpen (isOpen : Bool) (e : Exchange) : Bool :=
  match e.request with
  | .begin => isOpen || e.succeeds
  | .commit => isOpen && !e.succeeds
  | .rollback => false
  | _ => isOpen

theorem leavesOpen_iff {isOpen : Bool} {e : Exchange} :
    e.leavesOpen isOpen = true ↔ e.Opens ∨ (isOpen = true ∧ ¬ e.Closes) := by
  rw [leavesOpen, Opens, Closes]
  cases e.request <;> cases isOpen <;> simp

theorem leavesOpen_of_not_transactional {e : Exchange} (h : e.request.isTransactional = false)
    (isOpen : Bool) : e.leavesOpen isOpen = isOpen := by
  rw [leavesOpen]
  generalize e.request = r at h
  cases r <;> first | rfl | cases h

end Exchange

/-- Whether a transaction is open after exchanges. -/
def openAfter (isOpen : Bool) (es : List Exchange) : Bool :=
  es.foldl Exchange.leavesOpen isOpen

/-- Every transaction that has been begun is ended. -/
def Settled (es : List Exchange) : Prop :=
  ∀ before e after, es = before ++ e :: after → e.Opens → ∃ later ∈ after, later.Closes

/-- No transaction is begun while one is open, when one is or is not open at first. -/
def NeverNested (isOpen : Bool) (es : List Exchange) : Prop :=
  ∀ before e after, es = before ++ e :: after → e.request = .begin →
    openAfter isOpen before = false

@[simp] theorem openAfter_nil (isOpen : Bool) : openAfter isOpen [] = isOpen := rfl

@[simp] theorem openAfter_cons (isOpen : Bool) (e : Exchange) (es : List Exchange) :
    openAfter isOpen (e :: es) = openAfter (e.leavesOpen isOpen) es := rfl

@[simp] theorem openAfter_append (isOpen : Bool) (es fs : List Exchange) :
    openAfter isOpen (es ++ fs) = openAfter (openAfter isOpen es) fs :=
  List.foldl_append

theorem nil_ne_append_cons (before after : List Exchange) (e : Exchange) :
    [] ≠ before ++ e :: after :=
  (List.append_ne_nil_of_right_ne_nil before (List.cons_ne_nil e after)).symm

/-- A place among exchanges is the first of them or a place among the rest. -/
theorem forall_split_cons {P : List Exchange → Exchange → List Exchange → Prop} {e : Exchange}
    {es : List Exchange} :
    (∀ before f after, e :: es = before ++ f :: after → P before f after) ↔
      P [] e es ∧ ∀ before f after, es = before ++ f :: after → P (e :: before) f after := by
  constructor
  · intro h
    exact ⟨h [] e es rfl, fun before f after heq => h (e :: before) f after (by rw [heq]; rfl)⟩
  · rintro ⟨hfirst, hrest⟩ before f after heq
    cases before with
    | nil =>
      cases heq
      exact hfirst
    | cons b before =>
      cases heq
      exact hrest before f after rfl

theorem settled_nil : Settled [] :=
  fun before e after h => absurd h (nil_ne_append_cons before after e)

theorem settled_cons {e : Exchange} {es : List Exchange} :
    Settled (e :: es) ↔ (e.Opens → ∃ later ∈ es, later.Closes) ∧ Settled es :=
  forall_split_cons (P := fun _ f after => f.Opens → ∃ later ∈ after, later.Closes)

/-- What is open at the end is what nothing has ended. -/
theorem openAfter_eq_false_iff {isOpen : Bool} {es : List Exchange} :
    openAfter isOpen es = false ↔
      (isOpen = true → ∃ later ∈ es, later.Closes) ∧ Settled es := by
  induction es generalizing isOpen with
  | nil => cases isOpen <;> simp [settled_nil]
  | cons e es ih =>
    rw [openAfter_cons, ih, Exchange.leavesOpen_iff, settled_cons]
    constructor
    · rintro ⟨hopen, hsettled⟩
      refine ⟨fun h => ?_, fun h => hopen (Or.inl h), hsettled⟩
      by_cases hcloses : e.Closes
      · exact ⟨e, List.mem_cons_self, hcloses⟩
      · obtain ⟨later, hmem, hlater⟩ := hopen (Or.inr ⟨h, hcloses⟩)
        exact ⟨later, List.mem_cons_of_mem _ hmem, hlater⟩
    · rintro ⟨hopen, hopens, hsettled⟩
      refine ⟨?_, hsettled⟩
      rintro (h | ⟨h, hcloses⟩)
      · exact hopens h
      · obtain ⟨later, hmem, hlater⟩ := hopen h
        rcases List.mem_cons.mp hmem with rfl | hmem
        · exact absurd hlater hcloses
        · exact ⟨later, hmem, hlater⟩

/-- **Transactions are settled when none is open at the end.** -/
theorem settled_iff {es : List Exchange} : Settled es ↔ openAfter false es = false := by
  rw [openAfter_eq_false_iff]
  exact ⟨fun h => ⟨fun hopen => Bool.noConfusion hopen, h⟩, fun h => h.2⟩

theorem neverNested_nil (isOpen : Bool) : NeverNested isOpen [] :=
  fun before e after h => absurd h (nil_ne_append_cons before after e)

theorem neverNested_cons {isOpen : Bool} {e : Exchange} {es : List Exchange} :
    NeverNested isOpen (e :: es) ↔
      (e.request = .begin → isOpen = false) ∧ NeverNested (e.leavesOpen isOpen) es :=
  forall_split_cons (P := fun before f _ => f.request = .begin → openAfter isOpen before = false)

theorem neverNested_append {isOpen : Bool} {es fs : List Exchange} :
    NeverNested isOpen (es ++ fs) ↔
      NeverNested isOpen es ∧ NeverNested (openAfter isOpen es) fs := by
  induction es generalizing isOpen with
  | nil => simp [neverNested_nil]
  | cons e es ih => rw [List.cons_append, neverNested_cons, ih, neverNested_cons, and_assoc,
      openAfter_cons]

/-! ### At most one transaction -/

/-- No exchange begins or ends a transaction. -/
def Untransacted (es : List Exchange) : Prop :=
  ∀ e ∈ es, e.request.isTransactional = false

namespace Untransacted

variable {es : List Exchange}

theorem openAfter_eq (h : Untransacted es) (isOpen : Bool) : openAfter isOpen es = isOpen := by
  induction es with
  | nil => rfl
  | cons e es ih =>
    obtain ⟨he, hes⟩ := List.forall_mem_cons.mp h
    rw [openAfter_cons, Exchange.leavesOpen_of_not_transactional he, ih hes]

theorem request_ne (h : Untransacted es) {e : Exchange} (he : e ∈ es) {r : Request}
    (hr : r.isTransactional = true) : e.request ≠ r := by
  rintro rfl
  rw [h e he] at hr
  cases hr

theorem neverNested (h : Untransacted es) (isOpen : Bool) : NeverNested isOpen es := by
  rintro before e after rfl hbegin
  exact absurd hbegin (h.request_ne (List.mem_append_right _ List.mem_cons_self) rfl)

end Untransacted

/-- **At most one transaction, at the end**: none is asked for, or the begin fails and nothing
follows, or the begin succeeds and the last exchange is a commit or a rollback. -/
inductive Transacted : List Exchange → Prop
  | outside {es : List Exchange} (h : Untransacted es) : Transacted es
  | refused {es : List Exchange} (h : Untransacted es) (f : Failure) :
      Transacted (es ++ [⟨.begin, .error f⟩])
  | ended {es inner : List Exchange} {last : Exchange} (h : Untransacted es)
      (hinner : Untransacted inner) (hlast : last.request = .commit ∨ last.request = .rollback) :
      Transacted (es ++ ⟨.begin, .ok ()⟩ :: (inner ++ [last]))

namespace Transacted

variable {es fs : List Exchange}

theorem append_left (hes : Untransacted es) (h : Transacted fs) : Transacted (es ++ fs) := by
  have happend {gs : List Exchange} (hgs : Untransacted gs) : Untransacted (es ++ gs) :=
    fun e he => (List.mem_append.mp he).elim (hes e) (hgs e)
  cases h with
  | outside h => exact .outside (happend h)
  | refused h f =>
    rw [← List.append_assoc]
    exact .refused (happend h) f
  | ended h hinner hlast =>
    rw [← List.append_assoc]
    exact .ended (happend h) hinner hlast

theorem neverNested (h : Transacted es) : NeverNested false es := by
  cases h with
  | outside h => exact h.neverNested false
  | refused h f =>
    rw [neverNested_append, h.openAfter_eq, neverNested_cons]
    exact ⟨h.neverNested false, fun _ => rfl, neverNested_nil _⟩
  | ended h hinner hlast =>
    rw [neverNested_append, h.openAfter_eq, neverNested_cons, neverNested_append,
      neverNested_cons]
    refine ⟨h.neverNested false, fun _ => rfl, hinner.neverNested _, fun hbegin => ?_,
      neverNested_nil _⟩
    rw [hbegin] at hlast
    rcases hlast with hlast | hlast <;> cases hlast

/-- A commit can only be the last exchange. -/
theorem commit_cases (h : Transacted es) :
    (openAfter false es = false ∧ ∀ e ∈ es, e.request ≠ .commit) ∨
      ∃ first last, es = first ++ [last] ∧ last.request = .commit ∧
        openAfter false es = !last.succeeds ∧ ∀ e ∈ first, e.request ≠ .commit := by
  cases h with
  | outside h => exact Or.inl ⟨h.openAfter_eq false, fun e he => h.request_ne he rfl⟩
  | refused h f =>
    refine Or.inl ⟨?_, fun e he => ?_⟩
    · rw [openAfter_append, h.openAfter_eq]
      rfl
    · rcases List.mem_append.mp he with he | he
      · exact h.request_ne he rfl
      · rw [List.mem_singleton.mp he]
        exact nofun
  | @ended es inner last h hinner hlast =>
    have hfirst : ∀ e ∈ es ++ (⟨.begin, .ok ()⟩ : Exchange) :: inner, e.request ≠ .commit := by
      intro e he
      rcases List.mem_append.mp he with he | he
      · exact h.request_ne he rfl
      · rcases List.mem_cons.mp he with rfl | he
        · exact nofun
        · exact hinner.request_ne he rfl
    have hopen : openAfter false (es ++ ⟨.begin, .ok ()⟩ :: (inner ++ [last]))
        = last.leavesOpen true := by
      rw [openAfter_append, h.openAfter_eq, openAfter_cons, openAfter_append,
        hinner.openAfter_eq]
      rfl
    rw [hopen, Exchange.leavesOpen]
    rcases hlast with hlast | hlast
    · refine Or.inr ⟨es ++ ⟨.begin, .ok ()⟩ :: inner, last, ?_, hlast, ?_, hfirst⟩
      · rw [List.append_assoc, List.cons_append]
      · rw [hlast, Bool.true_and]
    · refine Or.inl ⟨by rw [hlast], fun e he => ?_⟩
      rw [← List.cons_append, ← List.append_assoc] at he
      rcases List.mem_append.mp he with he | he
      · exact hfirst e he
      · rw [List.mem_singleton.mp he, hlast]
        exact nofun

/-- **A step settles its transaction unless its commit fails.** -/
theorem settled_iff (h : Transacted es) :
    Settled es ↔ ∀ e ∈ es, e.request = .commit → e.succeeds = true := by
  rw [OracleSql.settled_iff]
  rcases h.commit_cases with ⟨hopen, hnone⟩ | ⟨first, last, rfl, hlast, hopen, hfirst⟩
  · exact ⟨fun _ e he hcommit => absurd hcommit (hnone e he), fun _ => hopen⟩
  · rw [hopen, Bool.not_eq_false']
    constructor
    · intro hsucceeds e he hcommit
      rcases List.mem_append.mp he with he | he
      · exact absurd hcommit (hfirst e he)
      · rw [List.mem_singleton.mp he]
        exact hsucceeds
    · intro hall
      exact hall last (List.mem_append_right _ List.mem_cons_self) hlast

end Transacted

end OracleSql
