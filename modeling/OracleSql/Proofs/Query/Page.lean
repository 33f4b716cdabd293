import OracleSql.Proofs.Text.Reading
import OracleSql.Query.Page

/-!
# The rows of a page

`Query/Page.lean` writes a page around the text of an inner query.  This file says what the
database returns for such a text.  `PageForm.read?` reads the text: it is one of two forms, a
filter on `rownum` itself or a filter on the numbers that an inner select list has given.
`PageForm.rows` is what a form returns for the rows of the inner query.

The two forms differ because `rownum` in a filter numbers the rows as they pass (`passing`): a row
that fails leaves its number to the next one, so a filter that refuses the number one refuses
every row.  In a select list without a filter it numbers all rows.

`returned_paginate` says what each page returns, and `returned_paginate_eq_page_iff` when that is
the page that was asked for.
-/

namespace OracleSql

variable {α : Type}

/-! ### Comparisons of row numbers -/

/-- A comparison of a row number. -/
inductive RowBound where
  | equal (n : Nat)
  | atLeast (n : Nat)
  | between (low high : Nat)
deriving DecidableEq

namespace RowBound

def holds : RowBound → Nat → Bool
  | equal n, k => k == n
  | atLeast n, k => decide (n ≤ k)
  | between low high, k => decide (low ≤ k) && decide (k ≤ high)

/-- The comparison that a text writes after the number. -/
def read? (cs : List Char) : Option RowBound :=
  match Text.dropPrefix "= ".toList cs, Text.dropPrefix ">= ".toList cs,
      Text.dropPrefix "between ".toList cs with
  | some rest, _, _ => (Text.natOfDigits? rest).map equal
  | _, some rest, _ => (Text.natOfDigits? rest).map atLeast
  | _, _, some rest => do
    let (low, high) ← Text.breakOn " and ".toList rest
    return between (← Text.natOfDigits? low) (← Text.natOfDigits? high)
  | _, _, _ => none

end RowBound

/-! ### The two forms of a page -/

/-- The rows that pass a filter on `rownum` when `n` rows have passed before.  The next number is
the row's when it passes, and goes on to the row behind it when it does not. -/
def passing (keep : Nat → Bool) : Nat → List α → List α
  | _, [] => []
  | n, row :: rows => if keep (n + 1) then row :: passing keep (n + 1) rows else passing keep n rows

/-- A query around another one. -/
inductive PageForm where
  /-- A filter on `rownum`. -/
  | direct (bound : RowBound)
  /-- A filter on the numbers that the rows have got in a column `"rn"`. -/
  | numbered (bound : RowBound)
deriving DecidableEq

namespace PageForm

/-- What the query returns for the rows of the inner one, each with its value in the column `"rn"`
when there is such a column. -/
def rows : PageForm → List α → List (Option Nat × α)
  | direct bound, inner => (passing bound.holds 0 inner).map fun row => (none, row)
  | numbered bound, inner =>
    ((inner.zipIdx 1).filter fun row => bound.holds row.2).map fun row => (some row.2, row.1)

/-- The form that a text around an inner text has. -/
def read? (inner text : List Char) : Option PageForm :=
  match Text.dropPrefix ("select * from (".toList ++ inner ++ ") where rownum ".toList) text,
      Text.dropPrefix ("select t2.* from (select rownum as \"rn\", t1.* from (".toList ++ inner
        ++ ") t1) t2 where t2.\"rn\" ".toList) text with
  | some rest, _ => (RowBound.read? rest).map direct
  | _, some rest => (RowBound.read? rest).map numbered
  | _, _ => none

end PageForm

/-- The rows of an inner query that a statement around it returns, the column `"rn"` aside;
nothing when the statement has neither form. -/
def returned (inner statement : String) (rows : List α) : Option (List α) :=
  (PageForm.read? inner.toList statement.toList).map fun form => (form.rows rows).map Prod.snd

/-- **The page that is asked for**: the rows after the first `offset` ones, `limit` of them, or all
when the limit is zero. -/
def page (limit offset : UInt64) (rows : List α) : List α :=
  if limit = 0 then rows.drop offset.toNat else (rows.drop offset.toNat).take limit.toNat

/-! ### Reading a page -/

namespace RowBound

/-- The comparison that keeps the rows of a page. -/
def ofPage (limit offset : UInt64) : RowBound :=
  if limit = 1 then equal 1
  else if 1 < limit then
    between (min (offset.toNat + 1) maxBound) (min (offset.toNat + limit.toNat) maxBound)
  else atLeast (min (offset.toNat + 1) maxBound)

theorem read?_atLeast (n : Nat) : read? (">= ".toList ++ (toString n).toList) = some (atLeast n) := by
  have h1 : Text.dropPrefix "= ".toList (">= ".toList ++ (toString n).toList) = none :=
    Text.dropPrefix_cons_of_ne (by decide) _ _
  rw [read?, h1, Text.dropPrefix_append]
  simp only [Text.natOfDigits?_toString, Option.map_some]

theorem read?_between (low high : Nat) :
    read? ("between ".toList ++ ((toString low).toList ++ (" and ".toList ++ (toString high).toList)))
      = some (between low high) := by
  have h1 : ∀ cs, Text.dropPrefix "= ".toList ("between ".toList ++ cs) = none :=
    fun cs => Text.dropPrefix_cons_of_ne (by decide) _ _
  have h2 : ∀ cs, Text.dropPrefix ">= ".toList ("between ".toList ++ cs) = none :=
    fun cs => Text.dropPrefix_cons_of_ne (by decide) _ _
  have hcut : Text.breakOn " and ".toList
      ((toString low).toList ++ (" and ".toList ++ (toString high).toList))
      = some ((toString low).toList, (toString high).toList) := by
    refine Text.breakOn_append _ _ fun hmem => ?_
    exact absurd (Text.isDigit_of_mem_toString hmem) (by decide)
  rw [read?, h1, h2, Text.dropPrefix_append]
  simp only [hcut, Text.natOfDigits?_toString, Option.bind_eq_bind, Option.bind_some]
  rfl

theorem read?_rowConstraint (limit offset : UInt64) :
    read? (rowConstraint limit offset).toList = some (ofPage limit offset) := by
  rw [rowConstraint, ofPage]
  by_cases h1 : limit = 1
  · rw [if_pos h1, if_pos h1]
    decide
  · rw [if_neg h1, if_neg h1]
    by_cases h2 : 1 < limit
    · rw [if_pos h2, if_pos h2, ← read?_between]
      simp only [String.toList_append, List.append_assoc]
    · rw [if_neg h2, if_neg h2, ← read?_atLeast, String.toList_append]

end RowBound

namespace PageForm

def ofPage (limit offset : UInt64) : PageForm :=
  if 1 < limit ∨ limit = 0 ∧ 0 < offset then numbered (.ofPage limit offset)
  else direct (.ofPage limit offset)

/-- **A page is read back**, whatever the inner query is. -/
theorem read?_paginate (inner : Sql) (limit offset : UInt64) :
    read? inner.text.toList (paginate inner limit offset).text.toList
      = some (ofPage limit offset) := by
  rw [paginate, ofPage]
  by_cases h : 1 < limit ∨ limit = 0 ∧ 0 < offset
  · have hdirect : ∀ cs, Text.dropPrefix ("select * from (".toList ++ inner.text.toList
        ++ ") where rownum ".toList) ("select t2.* from (select rownum as \"rn\", t1.* from (".toList
        ++ cs) = none := fun cs => by rfl
    rw [if_pos h, if_pos h]
    simp only [Sql.text_append, Sql.text_ofText, String.toList_append, List.append_assoc] at hdirect ⊢
    rw [read?, List.append_assoc, hdirect, ← List.append_assoc, ← List.append_assoc,
      List.append_assoc, Text.dropPrefix_append]
    simp only [RowBound.read?_rowConstraint, Option.map_some]
  · rw [if_neg h, if_neg h]
    simp only [Sql.text_append, Sql.text_ofText, String.toList_append]
    rw [read?, Text.dropPrefix_append]
    simp only [RowBound.read?_rowConstraint, Option.map_some]

end PageForm

/-! ### Filters on row numbers -/

/-- Once the next number is refused, every row is. -/
theorem passing_eq_nil {keep : Nat → Bool} {n : Nat} (h : keep (n + 1) = false) (rows : List α) :
    passing keep n rows = [] := by
  induction rows with
  | nil => rfl
  | cons row rows ih => rw [passing, h, if_neg (by simp), ih]

/-- The first row passes a filter for the number one, and no other row does. -/
theorem passing_equal_one (rows : List α) :
    passing (RowBound.equal 1).holds 0 rows = rows.take 1 := by
  cases rows with
  | nil => rfl
  | cons row rows =>
    have hfirst : (RowBound.equal 1).holds (0 + 1) = true := rfl
    have hrest : passing (RowBound.equal 1).holds (0 + 1) rows = [] := passing_eq_nil rfl rows
    rw [passing, if_pos hfirst, hrest, List.take_succ_cons, List.take_zero]

/-- All rows pass a filter that keeps every number. -/
theorem passing_eq_self {keep : Nat → Bool} (rows : List α) :
    ∀ n, (∀ k, n < k → keep k = true) → passing keep n rows = rows := by
  induction rows with
  | nil => intro n _; rfl
  | cons row rows ih =>
    intro n h
    rw [passing, if_pos (h (n + 1) (by omega)), ih (n + 1) fun k hk => h k (by omega)]

/-- **A filter on given numbers cuts out a stretch**: if, among the numbers of the rows, it keeps
those from the `skip`-th on and `count` of them. -/
theorem filter_zipIdx {keep : Nat → Bool} (rows : List α) :
    ∀ start skip count,
      (∀ n, start ≤ n → n < start + rows.length →
        (keep n = true ↔ start + skip ≤ n ∧ n < start + skip + count)) →
      ((rows.zipIdx start).filter fun row => keep row.2).map Prod.fst
        = (rows.drop skip).take count := by
  induction rows with
  | nil => intro start skip count _; simp
  | cons row rows ih =>
    intro start skip count h
    have hhead := h start (Nat.le_refl _) (by simp)
    rw [List.zipIdx_cons, List.filter_cons]
    cases skip with
    | succ skip =>
      -- the first row is skipped
      have hk : ¬ keep start = true := fun hk => by have := hhead.mp hk; omega
      rw [if_neg hk, List.drop_succ_cons]
      refine ih (start + 1) skip count fun n hn hlt => ?_
      rw [h n (by omega) (by rw [List.length_cons]; omega)]
      omega
    | zero =>
      cases count with
      | zero =>
        have hk : ¬ keep start = true := fun hk => by have := hhead.mp hk; omega
        rw [if_neg hk, List.take_zero]
        have hrest := ih (start + 1) 0 0 fun n hn hlt => by
          rw [h n (by omega) (by rw [List.length_cons]; omega)]
          omega
        rw [hrest, List.take_zero]
      | succ count =>
        have hk : keep start = true := hhead.mpr (by omega)
        rw [if_pos hk, List.map_cons, List.drop_zero, List.take_succ_cons]
        have hrest := ih (start + 1) 0 count fun n hn hlt => by
          rw [h n (by omega) (by rw [List.length_cons]; omega)]
          omega
        rw [hrest, List.drop_zero]

/-! ### The rows of a page -/

theorem rows_numbered (bound : RowBound) (rows : List α) :
    ((PageForm.numbered bound).rows rows).map Prod.snd
      = ((rows.zipIdx 1).filter fun row => bound.holds row.2).map Prod.fst := by
  rw [PageForm.rows, List.map_map]
  rfl

theorem rows_direct (bound : RowBound) (rows : List α) :
    ((PageForm.direct bound).rows rows).map Prod.snd = passing bound.holds 0 rows := by
  rw [PageForm.rows, List.map_map]
  exact List.map_id _

/-- **What a page returns.**  A page of one row returns the first row whatever the offset is;
every other page returns what is asked for, as long as there are fewer rows than bounds. -/
theorem returned_paginate (inner : Sql) (limit offset : UInt64) (rows : List α)
    (hrows : rows.length < maxBound) :
    returned inner.text (paginate inner limit offset).text rows
      = some (if limit = 1 then rows.take 1 else page limit offset rows) := by
  rw [returned, PageForm.read?_paginate, Option.map_some, Option.some.injEq, PageForm.ofPage,
    RowBound.ofPage]
  by_cases h1 : limit = 1
  · have hform : ¬ (1 < limit ∨ limit = 0 ∧ 0 < offset) := by
      subst h1; simp
    rw [if_pos h1, if_pos h1, if_neg hform, rows_direct, passing_equal_one]
  rw [if_neg h1, if_neg h1, page]
  by_cases h2 : 1 < limit
  · -- several rows: the numbers up to the last row are below both bounds where these saturate
    have h0 : limit ≠ 0 := by intro h; subst h; simp at h2
    rw [if_pos h2, if_pos (Or.inl h2), if_neg h0, rows_numbered]
    refine filter_zipIdx rows 1 offset.toNat limit.toNat fun n hn hlt => ?_
    simp only [RowBound.holds, Bool.and_eq_true, decide_eq_true_eq]
    omega
  · have h0 : limit = 0 := by
      rw [UInt64.lt_iff_toNat_lt] at h2
      rw [← UInt64.toNat_inj] at h1 ⊢
      simp only [UInt64.reduceToNat] at h1 h2 ⊢
      omega
    subst h0
    rw [if_neg h2, if_pos rfl]
    by_cases hoff : 0 < offset
    · -- the rest of the rows, again numbered first
      rw [if_pos (Or.inr ⟨rfl, hoff⟩), rows_numbered]
      have hcut := @filter_zipIdx α (RowBound.atLeast (min (offset.toNat + 1) maxBound)).holds
        rows 1 offset.toNat rows.length fun n hn hlt => by
          simp only [RowBound.holds, decide_eq_true_eq]
          omega
      rw [hcut]
      exact List.take_of_length_le (by rw [List.length_drop]; omega)
    · -- all rows: each number is at least one
      have hz : offset = 0 := by
        rw [UInt64.lt_iff_toNat_lt] at hoff
        rw [← UInt64.toNat_inj]
        simp only [UInt64.reduceToNat] at hoff ⊢
        omega
      subst hz
      rw [if_neg (by simp), rows_direct, passing_eq_self rows 0 fun k hk => ?_]
      · rfl
      · simp only [RowBound.holds, UInt64.reduceToNat, decide_eq_true_eq]
        omega

theorem take_one_eq_page_one_iff (offset : UInt64) (rows : List α) :
    rows.take 1 = page 1 offset rows ↔ rows[offset.toNat]? = rows[0]? := by
  rw [page, if_neg (by decide), show (1 : UInt64).toNat = 1 from rfl]
  constructor
  · intro h
    have hfirst := congrArg (·[0]?) h
    simpa [List.getElem?_take, List.getElem?_drop] using hfirst.symm
  · intro h
    apply List.ext_getElem?
    intro i
    cases i with
    | zero => simpa [List.getElem?_take, List.getElem?_drop] using h.symm
    | succ i => rw [List.getElem?_take_eq_none (by omega), List.getElem?_take_eq_none (by omega)]

/-- **When a page is the page that was asked for**: always, except that a page of one row is only
right when the row behind the offset equals the first row.  Rows are numbered up to `maxBound`,
which is `2 ^ 64 - 1`. -/
theorem returned_paginate_eq_page_iff (inner : Sql) (limit offset : UInt64) (rows : List α)
    (hrows : rows.length < maxBound) :
    returned inner.text (paginate inner limit offset).text rows = some (page limit offset rows)
      ↔ (limit = 1 → rows[offset.toNat]? = rows[0]?) := by
  rw [returned_paginate inner limit offset rows hrows, Option.some.injEq]
  by_cases h : limit = 1
  · subst h
    rw [if_pos rfl, take_one_eq_page_one_iff]
    simp
  · simp [h]

/-- The page after the first two of three rows. -/
theorem returned_paginate_eq_page_three :
    [1, 2, 3].length < maxBound ∧
      returned "select n from t" (paginate "select n from t" 0 2).text [1, 2, 3] = some [3] := by
  refine ⟨by decide, ?_⟩
  have h := (returned_paginate_eq_page_iff (Sql.ofText "select n from t") 0 2 [1, 2, 3]
    (by decide)).mpr fun h => absurd h (by decide)
  rw [Sql.text_ofText] at h
  exact h

/-- **A page of one row leaves the offset out**: the second of two rows is asked for, and the first
one is returned. -/
theorem returned_paginate_one_ne_page :
    returned "select n from t" (paginate "select n from t" 1 1).text [1, 2] = some [1] ∧
      page 1 1 [1, 2] = [2] := by
  refine ⟨?_, by decide⟩
  have h := returned_paginate (Sql.ofText "select n from t") 1 1 [1, 2] (by decide)
  rw [Sql.text_ofText] at h
  exact h

end OracleSql
