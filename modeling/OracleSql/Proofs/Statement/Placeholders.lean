import OracleSql.Proofs.Text.Reading
import OracleSql.Statement

/-!
# Placeholders

A question mark outside quotes is a placeholder.  `placeholders` counts them and `fill` puts texts
in their place, both from left to right with the place (`Quoting`) as the state of the scan; so
what a scan does with `s ++ t` is what it does with `s` and then with `t` from where `s` ends
(`fillFrom_append`).  The positional binds are one way to fill (`numbered_eq_fill`).

A text is `SelfContained` when it closes its quotes and holds no placeholder.  Such a text may
stand anywhere outside quotes without moving the placeholders around it.
-/

namespace OracleSql

/-- Where a text ends that starts in a given place. -/
def Quoting.after (q : Quoting) (cs : List Char) : Quoting :=
  cs.foldl Quoting.step q

/-- The number of placeholders in a text that starts in a given place. -/
def placeholders (q : Quoting) : List Char → Nat
  | [] => 0
  | c :: cs =>
    if c = '?' ∧ q = .outside then placeholders q cs + 1 else placeholders (q.step c) cs

/-- Put `f n`, `f (n + 1)`, … in place of the placeholders of a text that starts in a given
place. -/
def fillFrom (f : Nat → List Char) (q : Quoting) (n : Nat) : List Char → List Char
  | [] => []
  | c :: cs =>
    if c = '?' ∧ q = .outside then f n ++ fillFrom f q (n + 1) cs
    else c :: fillFrom f (q.step c) n cs

/-- **The text with `f 0`, `f 1`, … in place of its placeholders.** -/
def fill (f : Nat → String) (sql : String) : String :=
  String.ofList (fillFrom (fun k => (f k).toList) .outside 0 sql.toList)

/-! ### One part after another -/

theorem Quoting.after_append (q : Quoting) (as bs : List Char) :
    q.after (as ++ bs) = (q.after as).after bs :=
  List.foldl_append

theorem placeholders_append (q : Quoting) (as bs : List Char) :
    placeholders q (as ++ bs) = placeholders q as + placeholders (q.after as) bs := by
  induction as generalizing q with
  | nil => simp [placeholders, Quoting.after]
  | cons a as ih =>
    rw [List.cons_append, placeholders, placeholders]
    by_cases h : a = '?' ∧ q = .outside
    · have hstep : q.step a = q := by
        rw [h.1, h.2]
        rfl
      rw [if_pos h, if_pos h, ih, Quoting.after, Quoting.after, List.foldl_cons, hstep]
      omega
    · rw [if_neg h, if_neg h, ih]
      rfl

theorem fillFrom_append (f : Nat → List Char) (q : Quoting) (n : Nat) (as bs : List Char) :
    fillFrom f q n (as ++ bs)
      = fillFrom f q n as ++ fillFrom f (q.after as) (n + placeholders q as) bs := by
  induction as generalizing q n with
  | nil => rfl
  | cons a as ih =>
    rw [List.cons_append, fillFrom, fillFrom, placeholders]
    by_cases h : a = '?' ∧ q = .outside
    · have hstep : q.step a = q := by
        rw [h.1, h.2]
        rfl
      rw [if_pos h, if_pos h, if_pos h, ih, Quoting.after, Quoting.after, List.foldl_cons, hstep,
        List.append_assoc, Nat.add_assoc, Nat.add_comm 1]
    · rw [if_neg h, if_neg h, if_neg h, ih]
      rfl

theorem fillFrom_of_placeholders_eq_zero {f : Nat → List Char} {q : Quoting} {n : Nat}
    {cs : List Char} (h : placeholders q cs = 0) : fillFrom f q n cs = cs := by
  induction cs generalizing q with
  | nil => rfl
  | cons c cs ih =>
    rw [placeholders] at h
    rw [fillFrom]
    by_cases hc : c = '?' ∧ q = .outside
    · rw [if_pos hc] at h
      cases h
    · rw [if_neg hc] at h
      rw [if_neg hc, ih h]

/-! ### Positional binds -/

theorem numberFrom_eq_fillFrom (q : Quoting) (n : Nat) (cs : List Char) :
    numberFrom q n cs = fillFrom (fun k => (":" ++ toString (k + 1)).toList) q n cs := by
  induction cs generalizing q n with
  | nil => rfl
  | cons c cs ih =>
    rw [numberFrom, fillFrom, ih, ih, String.toList_append]
    rfl

/-- **The positional binds fill the placeholders in order**: the first one is `:1`. -/
theorem numbered_eq_fill (sql : String) :
    numbered sql = fill (fun k => ":" ++ toString (k + 1)) sql := by
  rw [numbered, fill, numberFrom_eq_fillFrom]

/-! ### Texts that bring no placeholders -/

/-- A text that closes its quotes and holds no placeholder. -/
def SelfContained (s : String) : Prop :=
  Quoting.after .outside s.toList = .outside ∧ placeholders .outside s.toList = 0

instance (s : String) : Decidable (SelfContained s) :=
  inferInstanceAs (Decidable (_ ∧ _))

/-- The characters that a scan for placeholders looks at. -/
def isMark (c : Char) : Bool :=
  c == '\'' || c == '"' || c == '?'

/-- A text without quotes and question marks. -/
def Unmarked (s : String) : Prop :=
  ∀ c ∈ s.toList, isMark c = false

instance (s : String) : Decidable (Unmarked s) :=
  List.decidableBAll _ _

/-- Nothing moves over a text without marks, wherever it starts. -/
theorem after_of_unmarked {cs : List Char} (h : ∀ c ∈ cs, isMark c = false)
    (q : Quoting) : q.after cs = q ∧ placeholders q cs = 0 := by
  induction cs with
  | nil => exact ⟨rfl, rfl⟩
  | cons c cs ih =>
    have hc := h c List.mem_cons_self
    rw [isMark, Bool.or_eq_false_iff, Bool.or_eq_false_iff, beq_eq_false_iff_ne,
      beq_eq_false_iff_ne, beq_eq_false_iff_ne] at hc
    obtain ⟨⟨hliteral, hidentifier⟩, hmark⟩ := hc
    have hstep : q.step c = q := by
      cases q <;> simp [Quoting.step, hliteral, hidentifier]
    obtain ⟨hafter, hzero⟩ := ih fun c hc => h c (List.mem_cons_of_mem _ hc)
    rw [placeholders, if_neg fun hc => hmark hc.1, Quoting.after, List.foldl_cons, hstep]
    exact ⟨hafter, hzero⟩

namespace SelfContained

variable {s t : String}

theorem of_unmarked (h : Unmarked s) : SelfContained s :=
  after_of_unmarked h .outside

theorem append (hs : SelfContained s) (ht : SelfContained t) : SelfContained (s ++ t) := by
  rw [SelfContained, String.toList_append, Quoting.after_append, placeholders_append, hs.1, hs.2,
    ht.1, ht.2]
  exact ⟨rfl, rfl⟩

theorem quoted (h : Unmarked s) : SelfContained ("\"" ++ s ++ "\"") := by
  have hopen : Quoting.after .outside "\"".toList = .identifier := by decide
  have hclose : Quoting.after .identifier "\"".toList = .outside := by decide
  obtain ⟨hafter, hzero⟩ := after_of_unmarked h .identifier
  rw [SelfContained, String.toList_append, String.toList_append, Quoting.after_append,
    Quoting.after_append, placeholders_append, placeholders_append, Quoting.after_append, hopen,
    hafter, hclose, hzero]
  exact ⟨rfl, by decide⟩

theorem composes : Text.Composes SelfContained :=
  ⟨by decide, fun _ _ => append⟩

end SelfContained

end OracleSql
