import OracleSql.Proofs.Query.Page
import OracleSql.Query.Compile

/-!
# The probe of a query

`Query.exists?` asks whether a query has rows.  It selects a constant, puts the condition
`rownum = 1` behind the others, and keeps the rest of the query, the page included.  Here it is
compared with `Query.select` on the rows that meet the conditions of the query.

Both statements are made of the same compiled parts (`select_eq_parts`, `exists?_eq_parts`), so one
is refused exactly when the other is.  The bound holds of the whole condition
(`boundedRows_withRowBound`), so the probe is left with the first row.  Then it is paged like the
query: a page has a row exactly when there is a row with the number it starts with
(`pageRows_ne_nil`).  That number is within the one row of the probe only for pages that start with
the first row, which makes `probe_agrees_iff`.
-/

namespace OracleSql

variable {α β : Type}

/-! ### Bounded conditions -/

def rowBoundSql : Sql :=
  [.raw "rownum = 1" []]

/-- A condition and the row bound behind it. -/
def withRowBound (grouped : Bool) (condition : Sql) : Sql :=
  if condition.isBlank then condition ++ rowBoundSql
  else
    (if grouped then "(" ++ condition ++ ")" else condition)
      ++ (" " ++ Connector.and.keyword ++ " ") ++ rowBoundSql

/-- What stands before the comparison when a bound on `rownum` holds of a whole condition.  Behind a
condition with an `or` it would hold of the last operand only, unless the condition is in
parentheses. -/
def beforeBound (grouped : Bool) (condition : String) : String :=
  if condition = "" then "rownum "
  else (if grouped then "(" ++ condition ++ ")" else condition) ++ " and rownum "

/-- The rows that are left of those that meet a condition, when a text bounds the condition. -/
def boundedRows (grouped : Bool) (condition text : String) (rows : List α) : Option (List α) :=
  ((Text.dropPrefix (beforeBound grouped condition).toList text.toList).bind RowBound.read?).map
    fun bound => passing bound.holds 0 rows

/-- **The row bound leaves the first row.** -/
theorem boundedRows_withRowBound (grouped : Bool) (condition : Sql) (rows : List α) :
    boundedRows grouped condition.text (withRowBound grouped condition).text rows
      = some (rows.take 1) := by
  have htext : (withRowBound grouped condition).text.toList
      = (beforeBound grouped condition.text).toList ++ "= 1".toList := by
    rw [withRowBound, beforeBound]
    by_cases hblank : condition.text = ""
    · rw [if_pos (isBlank_iff.mpr hblank), if_pos hblank, Sql.text_append, hblank]
      rfl
    · rw [if_neg (mt isBlank_iff.mp hblank), if_neg hblank]
      cases grouped <;>
        simp only [if_true, Bool.false_eq_true, if_false, Sql.text_append, Sql.text_ofText,
          String.toList_append, List.append_assoc] <;> rfl
  have hread : RowBound.read? "= 1".toList = some (.equal 1) := by decide
  rw [boundedRows, htext, Text.dropPrefix_append, Option.bind_some, hread, Option.map_some,
    passing_equal_one]

theorem connectTo_append (row : Sql) (first second : List (Connector × Operand)) :
    connectTo row (first ++ second) = connectTo (connectTo row first) second := by
  induction first generalizing row with
  | nil => rfl
  | cons p first ih =>
    obtain ⟨connector, operand⟩ := p
    rw [List.cons_append, connectTo, connectTo]
    split
    · exact ih _
    · exact ih _

theorem connect_singleton (connector : Connector) (operand : Operand) :
    connect [(connector, operand)] = operand.sql := by
  rw [connect, connectTo, if_pos (Or.inr (show Sql.isBlank [] = true from rfl)), connectTo,
    List.nil_append]

theorem connect_append_rowBound (operands : List (Connector × Operand)) :
    connect (operands ++ [(.and, ⟨rowBoundSql, false⟩)])
      = withRowBound false (connect operands) := by
  rw [connect, connectTo_append, ← connect, connectTo, connectTo, connectTo, withRowBound]
  by_cases hblank : (connect operands).isBlank
  · rw [if_pos (Or.inr hblank), if_pos hblank]
  · rw [if_neg (by simpa using hblank), if_neg hblank, if_neg Bool.false_ne_true]

def groupOperand (body : Sql) : Operand :=
  if body.isBlank then ⟨body, true⟩ else ⟨"(" ++ body ++ ")", false⟩

theorem withRowBound_groupOperand (body : Sql) :
    withRowBound false (groupOperand body).sql = withRowBound true body := by
  rw [groupOperand, withRowBound, withRowBound]
  by_cases hblank : body.isBlank
  · rw [if_pos hblank, if_pos hblank, if_pos hblank]
  · have hgroup : ¬ (("(" : Sql) ++ body ++ ")").isBlank := by
      rw [Sql.isBlank, List.all_append, List.all_append]
      exact Bool.false_ne_true
    rw [if_neg hblank, if_neg hgroup, if_neg hblank, if_pos rfl, if_neg Bool.false_ne_true]

namespace Query

/-- Whether the probe puts the conditions in a group. -/
def joinedByOr (q : Query) : Bool :=
  q.wheres.any fun p => p.connector = .or

/-- **The conditions of the probe** are those of the query with the row bound. -/
theorem compilePredicates_probe (c : Config) (q : Query) :
    compilePredicates c q.probe.wheres = (do
      let condition ← compilePredicates c q.wheres
      return withRowBound q.joinedByOr condition) := by
  have hprobe : q.probe.wheres
      = (if q.joinedByOr then [Predicate.group q.wheres] else q.wheres)
        ++ [Predicate.raw "rownum = 1"] := rfl
  have hbound : compileOperands c [Predicate.raw "rownum = 1"]
      = pure [(.and, ⟨rowBoundSql, false⟩)] := by
    rw [Predicate.raw, Predicate.of, compileOperands, compileOperands, Condition.compile]
    rfl
  rw [hprobe, compilePredicates, compileOperands_append, hbound, compilePredicates]
  cases q.joinedByOr with
  | false =>
    rw [if_neg Bool.false_ne_true]
    simp only [bind_assoc, pure_bind, connect_append_rowBound]
  | true =>
    have hgroup : compileOperands c [Predicate.group q.wheres] = (do
        let operands ← compileOperands c q.wheres
        return [(.and, groupOperand (connect operands))]) := by
      rw [Predicate.group, Predicate.of, compileOperands, compileOperands, Condition.compile]
      simp only [bind_assoc, pure_bind, groupOperand]
    rw [if_pos rfl, hgroup]
    simp only [bind_assoc, pure_bind, connect_append_rowBound, connect_singleton,
      withRowBound_groupOperand]

/-! ### The parts of a statement -/

/-- The joins, the conditions and the group conditions of a query, compiled. -/
def parts (c : Config) (q : Query) : Compile (Sql × Sql × Sql) := do
  let joins ← compileJoins c q.joins
  let wheres ← compilePredicates c q.wheres
  let havings ← compilePredicates c q.havings
  return (joins, wheres, havings)

/-- A text with the page of the query around it. -/
def paged (q : Query) (body : Sql) : Sql :=
  if q.isPaginated then paginate body (q.limit.getD 0) (q.offset.getD 0) else body

theorem lockOrPage_of_not_hasLock {q : Query} (h : q.hasLock = false) (body : Sql) :
    lockOrPage q body = pure (q.paged body) := by
  rw [lockOrPage, if_neg (by simp [h]), paged]
  split <;> rfl

theorem select_eq_parts {q : Query} (h : q.hasLock = false) (c : Config) :
    q.select c = (do
      let (joins, wheres, havings) ← q.parts c
      return (q.paged (queryClauses c q joins wheres havings)).statement) := by
  rw [select, compile_eq, parts]
  simp only [bind_assoc, pure_bind, lockOrPage_of_not_hasLock h]

theorem exists?_eq_parts {q : Query} (h : q.hasLock = false) (c : Config) :
    q.exists? c = (do
      let (joins, wheres, havings) ← q.parts c
      return (q.paged (queryClauses c q.probe joins (withRowBound q.joinedByOr wheres)
        havings)).statement) := by
  rw [exists?, select_eq_parts (q := q.probe) h, parts, parts, compilePredicates_probe]
  simp only [bind_assoc, pure_bind]
  rfl

/-! ### The rows that a statement returns -/

def unpaged (q : Query) : Query :=
  { q with limit := none, offset := none }

/-- The rows of a page, when the query without it has some rows. -/
def pageRows (q : Query) (rows : List β) : List β :=
  if q.isPaginated then
    ((PageForm.ofPage (q.limit.getD 0) (q.offset.getD 0)).rows rows).map Prod.snd
  else rows

/-- The number of the row that a page starts with. -/
def firstRow (q : Query) : Nat :=
  if q.limit.getD 0 = 1 then 1 else min ((q.offset.getD 0).toNat + 1) maxBound

end Query

/-- What a statement returns when the statement within its page returns some rows. -/
def answered (inner statement : String) (rows : List β) : Option (List β) :=
  if statement = inner then some rows else returned inner statement rows

theorem paginate_text_ne (inner : Sql) (limit offset : UInt64) :
    (paginate inner limit offset).text ≠ inner.text := by
  intro h
  have hlength := congrArg String.length h
  have hnumbered : 0 < ") t1) t2 where t2.\"rn\" ".length := by decide
  have hdirect : 0 < ") where rownum ".length := by decide
  rw [paginate] at hlength
  split at hlength <;>
    simp only [Sql.text_append, Sql.text_ofText, String.length_append] at hlength <;> omega

namespace Query

theorem answered_paged (q : Query) (body : Sql) (rows : List β) :
    answered body.text (q.paged body).text rows = some (q.pageRows rows) := by
  rw [answered, paged, pageRows]
  split
  · rw [if_neg (paginate_text_ne body _ _), returned, PageForm.read?_paginate, Option.map_some]
  · rw [if_pos rfl]

/-- A filter on given numbers keeps a row exactly when it keeps one of the numbers. -/
theorem filter_zipIdx_ne_nil {keep : Nat → Bool} (rows : List β) :
    ((rows.zipIdx 1).filter fun row => keep row.2).map Prod.fst ≠ [] ↔
      ∃ n, 1 ≤ n ∧ n ≤ rows.length ∧ keep n = true := by
  have hnumbers : ∀ n, (∃ row ∈ rows.zipIdx 1, row.2 = n) ↔ 1 ≤ n ∧ n ≤ rows.length := by
    intro n
    rw [← List.mem_map (f := Prod.snd), List.zipIdx_map_snd, List.mem_range'_1]
    omega
  rw [ne_eq, List.map_eq_nil_iff, List.filter_eq_nil_iff]
  constructor
  · intro h
    obtain ⟨row, hrow⟩ := Classical.not_forall.mp h
    obtain ⟨hmem, hkeep⟩ := Classical.not_imp.mp hrow
    obtain ⟨hlow, hhigh⟩ := (hnumbers row.2).mp ⟨row, hmem, rfl⟩
    exact ⟨row.2, hlow, hhigh, Classical.not_not.mp hkeep⟩
  · rintro ⟨n, hlow, hhigh, hkeep⟩ h
    obtain ⟨row, hmem, rfl⟩ := (hnumbers n).mpr ⟨hlow, hhigh⟩
    exact h row hmem hkeep

theorem limit_cases (limit : UInt64) : limit = 1 ∨ limit = 0 ∨ 1 < limit := by
  rw [← UInt64.toNat_inj, ← UInt64.toNat_inj, UInt64.lt_iff_toNat_lt]
  simp only [UInt64.reduceToNat]
  omega

/-- A page that numbers the rows has one exactly when its bound holds of a number. -/
theorem numbered_ne_nil {q : Query} (hpaginated : q.isPaginated = true)
    (hform : 1 < q.limit.getD 0 ∨ q.limit.getD 0 = 0 ∧ 0 < q.offset.getD 0) (rows : List β) :
    q.pageRows rows ≠ [] ↔ ∃ n, 1 ≤ n ∧ n ≤ rows.length ∧
      (RowBound.ofPage (q.limit.getD 0) (q.offset.getD 0)).holds n = true := by
  rw [pageRows, if_pos hpaginated, PageForm.ofPage, if_pos hform, rows_numbered,
    filter_zipIdx_ne_nil]

/-- **When a page has a row**: when there is one with the number it starts with. -/
theorem pageRows_ne_nil (q : Query) (rows : List β) :
    q.pageRows rows ≠ [] ↔ q.firstRow ≤ rows.length := by
  have hmax : 1 < maxBound := by decide
  rcases limit_cases (q.limit.getD 0) with h1 | h0 | h2
  · -- one row, the first
    have hpaginated : q.isPaginated = true := by
      rw [isPaginated, h1]
      rfl
    rw [pageRows, if_pos hpaginated, firstRow, if_pos h1, h1, PageForm.ofPage, if_neg (by simp),
      RowBound.ofPage, if_pos rfl, rows_direct, passing_equal_one]
    cases rows <;> simp
  · have hne : q.limit.getD 0 ≠ 1 := by rw [h0]; decide
    by_cases hoffset : 0 < q.offset.getD 0
    · -- the rest of the rows
      have hpaginated : q.isPaginated = true := by
        rw [isPaginated, decide_eq_true hoffset, Bool.or_true]
      rw [numbered_ne_nil hpaginated (Or.inr ⟨h0, hoffset⟩), firstRow, if_neg hne, RowBound.ofPage,
        if_neg hne, if_neg (by rw [h0]; decide)]
      simp only [RowBound.holds, decide_eq_true_eq]
      constructor
      · rintro ⟨n, _, hhigh, hstart⟩
        omega
      · exact fun h => ⟨_, by omega, h, Nat.le_refl _⟩
    · -- no page at all
      have hzero : (q.offset.getD 0).toNat = 0 := by
        rw [UInt64.lt_iff_toNat_lt] at hoffset
        exact Nat.eq_zero_of_not_pos hoffset
      have hpaginated : ¬ q.isPaginated = true := by
        rw [isPaginated, h0, decide_eq_false hoffset]
        decide
      rw [pageRows, if_neg hpaginated, firstRow, if_neg hne, hzero, Nat.zero_add,
        Nat.min_eq_left (Nat.le_of_lt hmax)]
      exact List.length_pos_iff.symm
  · -- some rows behind the offset
    have hne : q.limit.getD 0 ≠ 1 := fun h => by rw [h] at h2; exact absurd h2 (by decide)
    have hlimit : 1 < (q.limit.getD 0).toNat := UInt64.lt_iff_toNat_lt.mp h2
    have hpaginated : q.isPaginated = true := by
      rw [isPaginated, decide_eq_true (UInt64.lt_trans (by decide) h2), Bool.true_or]
    rw [numbered_ne_nil hpaginated (Or.inl h2), firstRow, if_neg hne, RowBound.ofPage, if_neg hne,
      if_pos h2]
    simp only [RowBound.holds, Bool.and_eq_true, decide_eq_true_eq]
    constructor
    · rintro ⟨n, _, hhigh, hstart, _⟩
      omega
    · exact fun h => ⟨_, by omega, h, Nat.le_refl _, by omega⟩

/-! ### The answers of a query and of its probe -/

/-- A query that shows its rows one by one, and takes no lock. -/
structure Rowwise (q : Query) : Prop where
  lock : q.hasLock = false
  aggregate : q.aggregate = none
  groupBy : q.groupBy = []
  havings : q.havings = []

/-- What the select list shows of the rows that meet the conditions, each thing once if it is to be
distinct. -/
def shown [DecidableEq β] (q : Query) (project : α → β) (rows : List α) : List β :=
  if q.distinct then (rows.map project).eraseDups else rows.map project

/-- **A statement of the query can answer so**, when the given rows meet the conditions: within the
page stands the statement of the query without a page, and it yields what the select list shows, in
some order. -/
def Answers [DecidableEq β] (c : Config) (q : Query) (project : α → β) (rows : List α)
    (statement : Statement) (answer : List β) : Prop :=
  ∃ inner found, (q.unpaged.select c).result = .ok inner ∧ found.Perm (q.shown project rows) ∧
    answered inner.sql statement.sql found = some answer

/-- **A statement of the probe can answer so**, when the given rows meet the conditions of the
query: the conditions of the probe bound those of the query, and it selects a constant. -/
def ProbeAnswers (c : Config) (q : Query) (rows : List α) (statement : Statement)
    (answer : List Unit) : Prop :=
  ∃ condition bounded left, (compilePredicates c q.wheres).result = .ok condition ∧
    (compilePredicates c q.probe.wheres).result = .ok bounded ∧
    boundedRows q.joinedByOr condition.text bounded.text rows = some left ∧
    q.probe.Answers c (fun _ => ()) left statement answer

section

variable [DecidableEq β] {c : Config} {q : Query} {project : α → β} {rows : List α}

theorem answers_iff (hlock : q.hasLock = false) {st : Statement}
    (hst : (q.select c).result = .ok st) {answer : List β} :
    q.Answers c project rows st answer ↔
      ∃ found : List β, found.Perm (q.shown project rows) ∧ q.pageRows found = answer := by
  rw [select_eq_parts hlock] at hst
  obtain ⟨⟨joins, wheres, havings⟩, hparts, hst⟩ := Compile.result_bind_eq_ok.mp hst
  cases hst
  have hinner : (q.unpaged.select c).result
      = .ok (queryClauses c q joins wheres havings).statement := by
    rw [select_eq_parts (q := q.unpaged) hlock]
    exact Compile.result_bind_eq_ok.mpr ⟨_, hparts, rfl⟩
  constructor
  · rintro ⟨inner, found, hunpaged, hperm, hanswer⟩
    rw [hinner] at hunpaged
    cases hunpaged
    exact ⟨found, hperm, Option.some.inj ((answered_paged q _ found).symm.trans hanswer)⟩
  · rintro ⟨found, hperm, rfl⟩
    exact ⟨_, found, hinner, hperm, answered_paged q _ found⟩

theorem probeAnswers_iff (hlock : q.hasLock = false) {probe : Statement}
    (hprobe : (q.exists? c).result = .ok probe) {answer : List Unit} :
    q.ProbeAnswers c rows probe answer ↔
      ∃ found : List Unit, found.Perm (q.probe.shown (fun _ => ()) (rows.take 1)) ∧
        q.pageRows found = answer := by
  have hanswers (left : List α) : q.probe.Answers c (fun _ => ()) left probe answer ↔
      ∃ found : List Unit, found.Perm (q.probe.shown (fun _ => ()) left) ∧
        q.pageRows found = answer :=
    answers_iff (q := q.probe) hlock hprobe
  rw [exists?_eq_parts hlock] at hprobe
  obtain ⟨_, hparts, _⟩ := Compile.result_bind_eq_ok.mp hprobe
  obtain ⟨joins, _, hparts⟩ := Compile.result_bind_eq_ok.mp hparts
  obtain ⟨wheres, hwheres, _⟩ := Compile.result_bind_eq_ok.mp hparts
  have hbounded : (compilePredicates c q.probe.wheres).result
      = .ok (withRowBound q.joinedByOr wheres) := by
    rw [compilePredicates_probe]
    exact Compile.result_bind_eq_ok.mpr ⟨wheres, hwheres, rfl⟩
  constructor
  · rintro ⟨condition, bounded, left, hcondition, hbounds, hleft, hanswer⟩
    rw [hwheres] at hcondition
    rw [hbounded] at hbounds
    cases hcondition
    cases hbounds
    rw [boundedRows_withRowBound] at hleft
    cases hleft
    exact (hanswers _).mp hanswer
  · intro hfound
    exact ⟨wheres, _, rows.take 1, hwheres, hbounded, boundedRows_withRowBound _ _ _,
      (hanswers _).mpr hfound⟩

theorem shown_eq_nil_iff : q.shown project rows = [] ↔ rows = [] := by
  rw [shown]
  cases rows with
  | nil => split <;> simp
  | cons row rows =>
    rw [List.map_cons]
    split
    · rw [List.eraseDups_cons]
      exact iff_of_false (List.cons_ne_nil _ _) (List.cons_ne_nil _ _)
    · exact iff_of_false (List.cons_ne_nil _ _) (List.cons_ne_nil _ _)

theorem length_shown_probe :
    (q.probe.shown (fun _ => ()) (rows.take 1)).length = min 1 rows.length := by
  rw [shown]
  cases rows with
  | nil => split <;> rfl
  | cons row rows =>
    rw [List.take_succ_cons, List.take_zero]
    have hlength : min 1 (row :: rows).length = 1 := by rw [List.length_cons]; omega
    rw [hlength]
    split <;> rfl

end

theorem exists?_error_iff {c : Config} {q : Query} (hlock : q.hasLock = false) (e : CompileError) :
    (q.exists? c).result = .error e ↔ (q.select c).result = .error e := by
  rw [exists?_eq_parts hlock, select_eq_parts hlock, Compile.result_bind, Compile.result_bind]
  cases (q.parts c).result with
  | error e' => rfl
  | ok parts => exact ⟨nofun, nofun⟩

/-- **When the probe agrees with the query.**  A query without lock, aggregate and grouping is
refused exactly when its probe is.  Otherwise both statements have answers for all rows that meet
the conditions, and then the probe has a row exactly when the query has one if and only if the
query asks for one row only, or has no offset, or has no row behind the offset. -/
theorem probe_agrees_iff [DecidableEq β] (c : Config) {q : Query} (h : q.Rowwise) :
    (∀ e, (q.exists? c).result = .error e ↔ (q.select c).result = .error e) ∧
    ∀ st probe, (q.select c).result = .ok st → (q.exists? c).result = .ok probe →
      ∀ (rows : List α) (project : α → β),
        (∃ selected, q.Answers c project rows st selected) ∧
        (∃ found, q.ProbeAnswers c rows probe found) ∧
        ∀ selected found, q.Answers c project rows st selected →
          q.ProbeAnswers c rows probe found →
            ((found ≠ [] ↔ selected ≠ []) ↔
              q.limit.getD 0 = 1 ∨ q.offset.getD 0 = 0 ∨
                (q.shown project rows).length < min ((q.offset.getD 0).toNat + 1) maxBound) := by
  refine ⟨exists?_error_iff h.lock, fun st probe hst hprobe rows project => ⟨?_, ?_, ?_⟩⟩
  · exact ⟨_, (answers_iff h.lock hst).mpr ⟨_, .refl _, rfl⟩⟩
  · exact ⟨_, (probeAnswers_iff h.lock hprobe).mpr ⟨_, .refl _, rfl⟩⟩
  · intro selected found hselected hfound
    obtain ⟨shown, hshown, rfl⟩ := (answers_iff h.lock hst).mp hselected
    obtain ⟨left, hleft, rfl⟩ := (probeAnswers_iff h.lock hprobe).mp hfound
    have hnil : (q.shown project rows).length = 0 ↔ rows.length = 0 := by
      rw [List.length_eq_zero_iff, List.length_eq_zero_iff, shown_eq_nil_iff]
    have hzero : q.offset.getD 0 = 0 ↔ (q.offset.getD 0).toNat = 0 := UInt64.toNat_inj.symm
    have hmax : 1 < maxBound := by decide
    rw [pageRows_ne_nil, pageRows_ne_nil, hshown.length_eq, hleft.length_eq, length_shown_probe,
      firstRow, hzero]
    split
    · next hone =>
      rw [iff_true_right (Or.inl hone)]
      omega
    · next hne =>
      rw [or_iff_right hne]
      omega

/-- Two rows are too few for the page behind three, and so is the row of the probe. -/
theorem probe_agrees_short :
    let q : Query := { ofTable "users" with limit := some 10, offset := some 3 }
    q.Rowwise ∧ ∃ st probe, (q.select .standard).result = .ok st ∧
      (q.exists? .standard).result = .ok probe ∧
      ∀ selected found, q.Answers .standard id [1, 2] st selected →
        q.ProbeAnswers .standard [1, 2] probe found → (found ≠ [] ↔ selected ≠ []) := by
  intro q
  have hq : q.Rowwise := ⟨rfl, rfl, rfl, rfl⟩
  obtain ⟨st, hst⟩ : ∃ st, (q.select .standard).result = .ok st := ⟨_, rfl⟩
  obtain ⟨probe, hprobe⟩ : ∃ probe, (q.exists? .standard).result = .ok probe := ⟨_, rfl⟩
  refine ⟨hq, st, probe, hst, hprobe, fun selected found hselected hfound => ?_⟩
  obtain ⟨_, hagrees⟩ := probe_agrees_iff (β := Nat) .standard hq
  obtain ⟨_, _, hiff⟩ := hagrees st probe hst hprobe [1, 2] id
  exact (hiff selected found hselected hfound).mpr (Or.inr (Or.inr (by decide)))

/-- **A probe never finds a row behind an offset**: the query returns the second of two rows, and
its probe returns none. -/
theorem probe_misses_offset :
    let q : Query := { ofTable "users" with offset := some 1 }
    q.Rowwise ∧ ∃ st probe, (q.select .standard).result = .ok st ∧
      (q.exists? .standard).result = .ok probe ∧
      q.Answers .standard id [1, 2] st [2] ∧ q.ProbeAnswers .standard [1, 2] probe [] := by
  intro q
  obtain ⟨st, hst⟩ : ∃ st, (q.select .standard).result = .ok st := ⟨_, rfl⟩
  obtain ⟨probe, hprobe⟩ : ∃ probe, (q.exists? .standard).result = .ok probe := ⟨_, rfl⟩
  refine ⟨⟨rfl, rfl, rfl, rfl⟩, st, probe, hst, hprobe, ?_, ?_⟩
  · exact (answers_iff rfl hst).mpr ⟨[1, 2], .refl _, by decide⟩
  · exact (probeAnswers_iff rfl hprobe).mpr ⟨[()], .refl _, by decide⟩

end Query

end OracleSql
