import OracleSql.Proofs.Condition.Rows
import OracleSql.Proofs.Condition.Subqueries

/-!
# Conditions that are atoms

Every condition that is not a group is written so that the reader takes it for one atom: names
never cut a row, the connector in `between` is waited for, and what else could cut one stands in
parentheses.  Only a list of values that is too long for one `in` is more than an atom, namely a
row of them in parentheses (`readsAs_compileOneOf`).
-/

namespace OracleSql

open Identifier

variable {c : Config}

/-- A text without parentheses, keywords and pending words that starts a part of its own. -/
structure Tail (s : String) : Prop extends Quiet s where
  some : lex s ≠ []
  detached : Detached s

instance (s : String) : Decidable (Tail s) :=
  decidable_of_iff (Quiet s ∧ lex s ≠ [] ∧ Detached s)
    ⟨fun h => ⟨h.1, h.2.1, h.2.2⟩, fun h => ⟨h.toQuiet, h.some, h.detached⟩⟩

theorem atomic_wrap (hc : Worded c.tablePrefix) {column s : String} (hcolumn : Dotted column)
    (h : Tail s) : Atomic (wrap c column ++ s) :=
  .append_right (quiet_wrap hc hcolumn).fragment (.of_quiet h.toQuiet h.some) (Or.inr h.detached)

theorem Atomic.call {s t : String} (hs : Atomic s) (ht : Balanced t) :
    Atomic (s ++ ("(" ++ t ++ ")")) := by
  obtain ⟨es, hinner⟩ := ht.exists_inner
  have hdetached : Detached ("(" ++ t ++ ")") := by
    rw [String.append_assoc]
    exact Detached.append (by decide) (by decide) _
  exact hs.append_left hinner.group (Or.inr hdetached)

theorem Atomic.append_tail {s t : String} (hs : Atomic s) (ht : Tail t) : Atomic (s ++ t) :=
  hs.append_left ht.fragment (Or.inr ht.detached)

/-! ### Comparisons, ranges and tests for null -/

theorem atomic_compare (hc : Worded c.tablePrefix) {column operator op : String}
    (hcolumn : Dotted column) (hop : (checkOperator operator).result = .ok op) :
    Atomic (wrap c column ++ " " ++ op ++ " " ++ "?") := by
  have hall : ∀ op ∈ operators, Tail (" " ++ (op ++ (" " ++ "?"))) := by decide +kernel
  rw [String.append_assoc, String.append_assoc, String.append_assoc]
  exact atomic_wrap hc hcolumn (hall op (mem_operators_of_checkOperator hop))

theorem atomic_columns (hc : Worded c.tablePrefix) {first second operator op : String}
    (hfirst : Dotted first) (hsecond : Dotted second)
    (hop : (checkOperator operator).result = .ok op) :
    Atomic (wrap c first ++ " " ++ op ++ " " ++ wrap c second) := by
  have hall : ∀ op ∈ operators, Tail (" " ++ (op ++ " ")) ∧ Closed (" " ++ (op ++ " ")) := by
    decide +kernel
  obtain ⟨htail, hclosed⟩ := hall op (mem_operators_of_checkOperator hop)
  have hmeets : Meets (wrap c first) (" " ++ (op ++ " ")) :=
    .of_detached (quiet_wrap hc hfirst).complete htail.detached
  have hne : " " ++ (op ++ " ") ≠ "" := by
    intro heq
    rw [heq] at htail
    exact htail.some rfl
  have htext : wrap c first ++ " " ++ op ++ " " ++ wrap c second
      = wrap c first ++ (" " ++ (op ++ " ")) ++ wrap c second := by
    simp only [String.append_assoc]
  rw [htext]
  exact (atomic_wrap hc hfirst htail).append_left (quiet_wrap hc hsecond).fragment
    (Or.inl (hmeets.closed_append hne hclosed))

theorem atomic_isNull (hc : Worded c.tablePrefix) {column : String} (hcolumn : Dotted column)
    (negated : Bool) : Atomic (wrap c column ++ " is " ++ notWord negated ++ "null") := by
  rw [String.append_assoc, String.append_assoc]
  cases negated with
  | false => exact atomic_wrap hc hcolumn (by decide +kernel)
  | true => exact atomic_wrap hc hcolumn (by decide +kernel)

def rangeElements : List Element :=
  [.token (.word "between"), .token (.sign '?'), .token (.word "and"), .token (.sign '?')]

/-- **The `and` of a range is no connector.** -/
theorem solid_rangeElements : Solid rangeElements := by
  have hbetween : (Token.word "between").connector? = none ∧
      (Token.word "between").opensRange = true := by decide +kernel
  have hand : (Token.word "and").connector? = some .and := connector?_keyword .and
  have hplaceholder : (Token.sign '?').connector? = none ∧
      (Token.sign '?').opensRange = false := ⟨rfl, rfl⟩
  intro current rest
  rw [rangeElements, List.cons_append, List.cons_append, List.cons_append, List.cons_append,
    List.nil_append, cut_of_not_connector hbetween.1, hbetween.2,
    cut_of_not_connector hplaceholder.1, hplaceholder.2, cut, hand]
  simp only [Bool.or_false]
  rw [cut_of_not_connector hplaceholder.1, hplaceholder.2]
  simp

theorem fragment_range : Fragment "between ? and ?" rangeElements where
  complete := by decide
  push := by
    have hlex : (lex "between ? and ?").map .token = rangeElements := rfl
    rw [← hlex]
    exact (Parses.of_tokens (by decide) (by decide +kernel)).push
  tokens := by decide +kernel
  solid := solid_rangeElements

theorem atomic_between (hc : Worded c.tablePrefix) {column : String} (hcolumn : Dotted column)
    (negated : Bool) :
    Atomic (wrap c column ++ " " ++ notWord negated ++ "between " ++ "?" ++ " and " ++ "?") := by
  have htext : wrap c column ++ " " ++ notWord negated ++ "between " ++ "?" ++ " and " ++ "?"
      = wrap c column ++ (" " ++ notWord negated) ++ ("between " ++ ("?" ++ (" and " ++ "?"))) := by
    simp only [String.append_assoc]
  have hquiet := quiet_wrap hc hcolumn
  have hword : Quiet (" " ++ notWord negated) ∧ Detached (" " ++ notWord negated) ∧
      Closed (" " ++ notWord negated) ∧ " " ++ notWord negated ≠ "" := by
    cases negated <;> decide +kernel
  obtain ⟨hnot, hdetached, hclosed, hne⟩ := hword
  have hmeets : Meets (wrap c column) (" " ++ notWord negated) :=
    .of_detached hquiet.complete hdetached
  have hatomic : Atomic ("between " ++ ("?" ++ (" and " ++ "?"))) :=
    ⟨rangeElements, fragment_range, _, List.mem_cons_self⟩
  rw [htext]
  exact .append_right (hquiet.append hnot (Or.inr hdetached)).fragment hatomic
    (Or.inl (hmeets.closed_append hne hclosed))

/-! ### Lists of values -/

theorem quiet_ofValues {values : List Value} (h : ∀ v ∈ values, v.isRaw = false) :
    Quiet (Sql.ofValues values).text := by
  rw [Sql.ofValues]
  induction values with
  | nil => decide
  | cons v values ih =>
    have hv := text_ofValue (h v List.mem_cons_self)
    cases values with
    | nil =>
      rw [List.map_singleton, Sql.joined, hv]
      decide
    | cons u values =>
      have hrest := ih fun w hw => h w (List.mem_cons_of_mem _ hw)
      have hcomma : Quiet ("?" ++ ", ") ∧ Closed ("?" ++ ", ") := by decide +kernel
      rw [List.map_cons, List.map_cons, Sql.joined, Sql.text_append, Sql.text_append, hv,
        Sql.text_ofText, ← String.append_assoc]
      · exact hcomma.1.append hrest (Or.inl hcomma.2)
      · simp

theorem atomic_one (hc : Worded c.tablePrefix) {column : String} (hcolumn : Dotted column)
    {chunk : List Value} (hchunk : ∀ v ∈ chunk, v.isRaw = false) (negated : Bool) :
    Atomic (compileOneOf.one c column negated chunk).text := by
  have hin : "in (" = "in " ++ "(" := rfl
  have htext : (compileOneOf.one c column negated chunk).text
      = wrap c column ++ (" " ++ (notWord negated ++ "in "))
        ++ ("(" ++ (Sql.ofValues chunk).text ++ ")") := by
    simp only [compileOneOf.one, Sql.text_append, Sql.text_ofText, hin, String.append_assoc]
  have htail : Tail (" " ++ (notWord negated ++ "in ")) := by cases negated <;> decide +kernel
  rw [htext]
  exact (atomic_wrap hc hcolumn htail).call (quiet_ofValues hchunk).fragment.toParses.balanced

theorem ReadsAsRow.joined (connector : Connector) {f : Formula} {lists : List Sql}
    (hlists : ∀ s ∈ lists, Atomic s.text) {before : String} {s : Sql}
    {fs : List (Connector × Formula)} (h : ReadsAsRow (before ++ s.text) f fs) :
    ReadsAsRow (before ++ (Sql.joined (" " ++ connector.keyword ++ " ") (s :: lists)).text) f
      (fs ++ lists.map fun t => (connector, .atom (lex t.text))) := by
  induction lists generalizing before s fs with
  | nil =>
    rw [List.map_nil, List.append_nil, Sql.joined]
    exact h
  | cons t lists ih =>
    obtain ⟨ht, hrest⟩ := List.forall_mem_cons.mp hlists
    have hnext := h.extend connector ht.readsAs
    have htext : before ++ (Sql.joined (" " ++ connector.keyword ++ " ") (s :: t :: lists)).text
        = before ++ s.text ++ (" " ++ connector.keyword ++ " ")
          ++ (Sql.joined (" " ++ connector.keyword ++ " ") (t :: lists)).text := by
      rw [Sql.joined, Sql.text_append, Sql.text_append, Sql.text_ofText]
      · simp only [String.append_assoc]
      · simp
    rw [htext, List.map_cons, List.append_cons]
    exact ih hrest hnext

/-- What a list of values says: one atom, or a row of them when it is too long for one. -/
def oneOfFormula (c : Config) (column : String) (values : List Value) (negated : Bool) :
    Formula :=
  match chunksOf (maxInList - 1) values with
  | [] => .atom (lex (if negated then "1 = 1" else "0 = 1"))
  | chunk :: chunks =>
    (one chunk).combine (chunks.map fun chunk => (if negated then .and else .or, one chunk))
where
  one (chunk : List Value) : Formula :=
    .atom (lex (compileOneOf.one c column negated chunk).text)

/-- **A list of values is one operand**, whatever its length. -/
theorem readsAs_compileOneOf (hc : Worded c.tablePrefix) {column : String}
    (hcolumn : Dotted column) {values : List Value} (hvalues : ∀ v ∈ values, v.isRaw = false)
    (negated : Bool) :
    ReadsAs (compileOneOf c column values negated).text
      (oneOfFormula c column values negated) := by
  have hatomic : ∀ chunk ∈ chunksOf (maxInList - 1) values,
      Atomic (compileOneOf.one c column negated chunk).text := by
    intro chunk hchunk
    exact atomic_one hc hcolumn (fun v hv => hvalues v (mem_of_mem_chunksOf hchunk hv)) negated
  rw [compileOneOf, oneOfFormula]
  split
  · next hchunks =>
    rw [hchunks]
    cases negated with
    | false => exact (Atomic.of_quiet (by decide +kernel) (by decide +kernel)).readsAs
    | true => exact (Atomic.of_quiet (by decide +kernel) (by decide +kernel)).readsAs
  · next chunk hchunks =>
    rw [hchunks]
    exact (hatomic chunk (by rw [hchunks]; exact List.mem_cons_self)).readsAs
  · next chunks hempty hsingle =>
    cases hchunks : chunksOf (maxInList - 1) values with
    | nil => exact absurd hchunks hempty
    | cons chunk rest =>
      rw [hchunks] at hatomic
      obtain ⟨hchunk, hrest⟩ := List.forall_mem_cons.mp hatomic
      have hlists : ∀ s ∈ rest.map (compileOneOf.one c column negated), Atomic s.text := by
        intro s hs
        obtain ⟨other, hother, rfl⟩ := List.mem_map.mp hs
        exact hrest other hother
      have hone : ReadsAsRow ("" ++ (compileOneOf.one c column negated chunk).text)
          (.atom (lex (compileOneOf.one c column negated chunk).text)) [] := by
        rw [String.empty_append]
        exact .of_readsAs hchunk.readsAs
      rw [List.map_cons]
      have hseparator : (if negated then " and " else " or ")
          = " " ++ (if negated then Connector.and else .or).keyword ++ " " := by
        cases negated <;> rfl
      have hrow := (ReadsAsRow.joined (if negated then .and else .or) hlists hone).group
      rw [String.empty_append, List.nil_append, List.map_map] at hrow
      rw [Sql.text_append, Sql.text_append, Sql.text_ofText, Sql.text_ofText, hseparator]
      exact hrow

/-! ### Parts of dates -/

theorem atomic_compileDatePart (hc : Worded c.tablePrefix) (part : DatePart)
    {column operator op : String} (hcolumn : Dotted column)
    (hop : (checkOperator operator).result = .ok op) {value : Value}
    (hvalue : value.isRaw = false) : Atomic (compileDatePart c part column op value).text := by
  have hall : ∀ op ∈ operators, Tail (" " ++ (op ++ (" " ++ "to_date"))) ∧
      Tail (" " ++ (op ++ (" " ++ "?"))) := by decide +kernel
  obtain ⟨htoDate, hplaceholder⟩ := hall op (mem_operators_of_checkOperator hop)
  have hclose : ") " = ")" ++ " " := rfl
  have hquiet := quiet_wrap hc hcolumn
  have hextract : ∀ before s : String, before = "extract " ++ ("(" ++ s) → Quiet s → Closed s →
      Atomic (before ++ wrap c column ++ ") " ++ op ++ " " ++ "?") := by
    intro before s hbefore hs hclosed
    have hname : Atomic "extract " := .of_quiet (by decide) (by decide +kernel)
    have hinside := (hs.append hquiet (Or.inl hclosed)).fragment.toParses.balanced
    have hatomic := (hname.call hinside).append_tail hplaceholder
    simp only [String.append_assoc] at hatomic
    simp only [hbefore, hclose, String.append_assoc]
    exact hatomic
  cases part with
  | date =>
    have hdate : ", 'YYYY-MM-DD')" = ", 'YYYY-MM-DD'" ++ ")" := rfl
    have htext : (compileDatePart c .date column op value).text
        = "trunc" ++ ("(" ++ wrap c column ++ ")") ++ (" " ++ (op ++ (" " ++ "to_date")))
          ++ ("(" ++ ("?" ++ ", 'YYYY-MM-DD'") ++ ")") := by
      have htrunc : "trunc(" = "trunc" ++ "(" := rfl
      have htoDate : " to_date(" = " " ++ ("to_date" ++ "(") := rfl
      simp only [compileDatePart, Sql.text_append, Sql.text_ofText, text_ofValue hvalue, htrunc,
        hclose, htoDate, hdate, String.append_assoc]
    have hname : Atomic "trunc" := .of_quiet (by decide) (by decide +kernel)
    rw [htext]
    exact ((hname.call hquiet.fragment.toParses.balanced).append_tail htoDate).call
      (by decide +kernel)
  | time =>
    have htext : (compileDatePart c .time column op value).text
        = "to_char" ++ ("(" ++ (wrap c column ++ ", 'HH24:MI:SS'") ++ ")")
          ++ (" " ++ (op ++ (" " ++ "?"))) := by
      have htoChar : "to_char(" = "to_char" ++ "(" := rfl
      have hformat : ", 'HH24:MI:SS') " = ", 'HH24:MI:SS'" ++ (")" ++ " ") := rfl
      simp only [compileDatePart, Sql.text_append, Sql.text_ofText, text_ofValue hvalue, htoChar,
        hformat, String.append_assoc]
    have hname : Atomic "to_char" := .of_quiet (by decide) (by decide +kernel)
    have hformat : Quiet ", 'HH24:MI:SS'" ∧ Detached ", 'HH24:MI:SS'" := by decide +kernel
    rw [htext]
    have hargument := (hquiet.append hformat.1 (Or.inr hformat.2)).fragment.toParses.balanced
    exact (hname.call hargument).append_tail hplaceholder
  | day =>
    simp only [compileDatePart, Sql.text_append, Sql.text_ofText, text_ofValue hvalue]
    exact hextract _ "day from " rfl (by decide +kernel) (by decide +kernel)
  | month =>
    simp only [compileDatePart, Sql.text_append, Sql.text_ofText, text_ofValue hvalue]
    exact hextract _ "month from " rfl (by decide +kernel) (by decide +kernel)
  | year =>
    simp only [compileDatePart, Sql.text_append, Sql.text_ofText, text_ofValue hvalue]
    exact hextract _ "year from " rfl (by decide +kernel) (by decide +kernel)

/-! ### Subqueries -/

theorem atomic_exists {inner : String} (h : Balanced inner) (negated : Bool) :
    Atomic (notWord negated ++ "exists (" ++ inner ++ ")") := by
  have hexists : "exists (" = "exists " ++ "(" := rfl
  have htext : notWord negated ++ "exists (" ++ inner ++ ")"
      = notWord negated ++ "exists " ++ ("(" ++ inner ++ ")") := by
    simp only [hexists, String.append_assoc]
  rw [htext]
  refine Atomic.call (.of_quiet ?_ ?_) h
  · cases negated <;> decide +kernel
  · cases negated <;> decide +kernel

end OracleSql
