import OracleSql.Query.Compile

/-!
# Long lists of values

A list of values is tested with `in`, which takes so many values and no more.  A longer list is cut
into lists that are tested one by one, and the tests stand in parentheses with `or` between them,
or with `and` when they are negated.  An empty list leaves a comparison of two numbers.

Nothing is lost that way.  The lists hold the values in their order, and they are as few as possible
(`length_chunksOf`).  A condition is true, false or unknown, and unknown it is as soon as something
is compared with null; but both `or` and `and` are associative on three truth values too, so a row
of rows is as true as the row of all their members (`Truth.row_flatten`).  Hence the tests together
are as true as the one test they stand for (`Condition.compile_oneOf`).
-/

namespace OracleSql

open Identifier

/-! ### Three truth values -/

/-- The truth of a condition. -/
inductive Truth where
  | no
  /-- Neither true nor false, as a comparison with null is. -/
  | unknown
  | yes
deriving DecidableEq

namespace Truth

def ofBool (b : Bool) : Truth :=
  if b then yes else no

def not : Truth → Truth
  | no => yes
  | unknown => unknown
  | yes => no

def connect : Connector → Truth → Truth → Truth
  | .and, no, _ | .and, _, no => no
  | .and, yes, yes => yes
  | .or, yes, _ | .or, _, yes => yes
  | .or, no, no => no
  | _, _, _ => unknown

/-- What changes nothing behind a connector. -/
def neutral : Connector → Truth
  | .and => yes
  | .or => no

/-- Conditions in a row with one connector between them. -/
def row (connector : Connector) (truths : List Truth) : Truth :=
  truths.foldr (connect connector) (neutral connector)

/-- Whether two values are equal, when it is known which ones other than null are. -/
def equal {D : Type} (same : D → D → Bool) : Option D → Option D → Truth
  | some x, some y => ofBool (same x y)
  | _, _ => unknown

theorem connect_assoc (connector : Connector) (s t u : Truth) :
    connect connector (connect connector s t) u = connect connector s (connect connector t u) := by
  cases connector <;> cases s <;> cases t <;> cases u <;> rfl

theorem neutral_connect (connector : Connector) (t : Truth) :
    connect connector (neutral connector) t = t := by
  cases connector <;> cases t <;> rfl

theorem row_cons (connector : Connector) (t : Truth) (ts : List Truth) :
    row connector (t :: ts) = connect connector t (row connector ts) := rfl

theorem row_append (connector : Connector) (ss ts : List Truth) :
    row connector (ss ++ ts) = connect connector (row connector ss) (row connector ts) := by
  induction ss with
  | nil => exact (neutral_connect connector (row connector ts)).symm
  | cons s ss ih => rw [List.cons_append, row_cons, row_cons, ih, connect_assoc]

/-- **A row of rows** is as true as the row of all their members. -/
theorem row_flatten (connector : Connector) (rows : List (List Truth)) :
    row connector (rows.map (row connector)) = row connector rows.flatten := by
  induction rows with
  | nil => rfl
  | cons ts rows ih => rw [List.map_cons, row_cons, ih, List.flatten_cons, row_append]

end Truth

/-! ### Tests of a column -/

/-- An entry of a list with the value it has in the database, if it is not null there.  A raw entry
is an expression, so this is not told by the entry. -/
structure Entry (D : Type) where
  value : Value
  known : Option D

/-- How a column is tested against lists of entries. -/
inductive ListTest (D : Type) where
  /-- Two numbers are compared. -/
  | constant (holds : Bool)
  /-- The column is looked for in one list. -/
  | one (negated : Bool) (entries : List (Entry D))
  /-- It is looked for in several lists, and a connector stands between the tests. -/
  | several (connector : Connector) (negated : Bool) (lists : List (List (Entry D)))

namespace ListTest

variable {D : Type}

/-- The connector between the tests of several lists. -/
def between (negated : Bool) : Connector :=
  if negated then .and else .or

/-- The test against entries that have been cut into lists. -/
def ofLists (negated : Bool) : List (List (Entry D)) → ListTest D
  | [] => constant negated
  | [entries] => one negated entries
  | lists => several (between negated) negated lists

def listText (c : Config) (column : String) (negated : Bool) (entries : List (Entry D)) : String :=
  wrap c column ++ " " ++ notWord negated ++ "in ("
    ++ ", ".intercalate (entries.map fun e => e.value.placeholder) ++ ")"

/-- **The test in the statement.** -/
def text (c : Config) (column : String) : ListTest D → String
  | constant holds => if holds then "1 = 1" else "0 = 1"
  | one negated entries => listText c column negated entries
  | several connector negated lists =>
    "(" ++ (" " ++ connector.keyword ++ " ").intercalate (lists.map (listText c column negated))
      ++ ")"

/-- Whether the column is one of the entries: it equals any of them.  Negated, it differs from all
of them. -/
def listTruth (same : D → D → Bool) (x : Option D) (negated : Bool) (entries : List (Entry D)) :
    Truth :=
  if negated then Truth.row .and (entries.map fun e => (Truth.equal same x e.known).not)
  else Truth.row .or (entries.map fun e => Truth.equal same x e.known)

/-- **The truth of the test** for a value of the column, null if there is none. -/
def truth (same : D → D → Bool) (x : Option D) : ListTest D → Truth
  | constant holds => .ofBool holds
  | one negated entries => listTruth same x negated entries
  | several connector negated lists => Truth.row connector (lists.map (listTruth same x negated))

-- with a null in the list it is unknown whether the list lacks a value
example : (one true [⟨.int 1, some 1⟩, ⟨.null, none⟩]).truth (· == ·) (some 2) = .unknown := by
  decide

def comparison (same : D → D → Bool) (x : Option D) (negated : Bool) (e : Entry D) : Truth :=
  if negated then (Truth.equal same x e.known).not else Truth.equal same x e.known

theorem listTruth_eq_row (same : D → D → Bool) (x : Option D) (negated : Bool)
    (entries : List (Entry D)) :
    listTruth same x negated entries
      = Truth.row (between negated) (entries.map (comparison same x negated)) := by
  cases negated <;> rfl

/-- **Cutting a list changes nothing in the truth of its test.** -/
theorem truth_ofLists (same : D → D → Bool) (x : Option D) (negated : Bool)
    (lists : List (List (Entry D))) :
    (ofLists negated lists).truth same x = (one negated lists.flatten).truth same x := by
  have hrows : Truth.row (between negated) (lists.map (listTruth same x negated))
      = listTruth same x negated lists.flatten := calc
    Truth.row (between negated) (lists.map (listTruth same x negated))
      = Truth.row (between negated)
          ((lists.map (List.map (comparison same x negated))).map
            (Truth.row (between negated))) := by
        rw [List.map_map]
        exact congrArg _ (List.map_congr_left fun entries _ => listTruth_eq_row same x _ entries)
    _ = Truth.row (between negated) (lists.map (List.map (comparison same x negated))).flatten :=
        Truth.row_flatten _ _
    _ = listTruth same x negated lists.flatten := by
        rw [← List.map_flatten, listTruth_eq_row]
  rcases lists with _ | ⟨entries, _ | ⟨others, rest⟩⟩
  · cases negated <;> rfl
  · rw [List.flatten_singleton, ofLists]
  · exact hrows

end ListTest

/-! ### Cutting a list -/

theorem length_of_mem_chunksOf {α : Type} {n : Nat} {xs chunk : List α} (h : chunk ∈ chunksOf n xs) :
    1 ≤ chunk.length ∧ chunk.length ≤ n + 1 := by
  induction xs using chunksOf.induct n with
  | case1 => simp [chunksOf] at h
  | case2 x rest ih =>
    rw [chunksOf] at h
    rcases List.mem_cons.mp h with rfl | h
    · rw [List.length_cons, List.length_take]
      omega
    · exact ih h

/-- **A list is cut into as few pieces as possible.** -/
theorem length_chunksOf {α : Type} (n : Nat) (xs : List α) :
    (chunksOf n xs).length = (xs.length + n) / (n + 1) := by
  induction xs using chunksOf.induct n with
  | case1 =>
    rw [chunksOf, List.length_nil, List.length_nil, Nat.zero_add,
      Nat.div_eq_of_lt (Nat.lt_succ_self n)]
  | case2 x rest ih =>
    have hrest : (rest.length - n + n) / (n + 1) = rest.length / (n + 1) := by
      by_cases hlong : n ≤ rest.length
      · rw [Nat.sub_add_cancel hlong]
      · rw [Nat.div_eq_of_lt (by omega), Nat.div_eq_of_lt (by omega)]
    have hlength : rest.length + 1 + n = rest.length + (n + 1) := by omega
    rw [chunksOf, List.length_cons, ih, List.length_drop, List.length_cons, hrest, hlength,
      Nat.add_div_right _ (Nat.succ_pos n)]

/-! ### The compiled condition -/

variable {D : Type}

theorem text_one (c : Config) (column : String) (negated : Bool) (entries : List (Entry D)) :
    (compileOneOf.one c column negated (entries.map Entry.value)).text
      = ListTest.listText c column negated entries := by
  rw [compileOneOf.one, Sql.text_append, Sql.text_append, Sql.text_ofValues, List.map_map]
  simp only [Sql.text_append, Sql.text_ofText]
  rfl

theorem params_one (c : Config) (column : String) (negated : Bool) (values : List Value) :
    (compileOneOf.one c column negated values).params = values.filter fun v => !v.isRaw := by
  rw [compileOneOf.one, Sql.params_append, Sql.params_append, Sql.params_ofValues]
  simp

theorem text_several (c : Config) (column : String) (negated : Bool)
    (lists : List (List (Entry D))) :
    Sql.text ("(" ++ Sql.joined (if negated then " and " else " or ")
        ((lists.map (List.map Entry.value)).map (compileOneOf.one c column negated)) ++ ")")
      = (ListTest.several (ListTest.between negated) negated lists).text c column := by
  have hseparator : (if negated then " and " else " or ")
      = " " ++ (ListTest.between negated).keyword ++ " " := by
    cases negated <;> rfl
  rw [Sql.text_append, Sql.text_append, Sql.text_ofText, Sql.text_ofText, Sql.text_joined,
    List.map_map, List.map_map, ListTest.text, hseparator]
  have hlists : lists.map (Sql.text ∘ compileOneOf.one c column negated ∘ List.map Entry.value)
      = lists.map (ListTest.listText c column negated) :=
    List.map_congr_left fun entries _ => text_one c column negated entries
  rw [← hlists]
  rfl

/-- **The statement shows the test against the lists.** -/
theorem text_compileOneOf (c : Config) (column : String) (entries : List (Entry D))
    (negated : Bool) :
    (compileOneOf c column (entries.map Entry.value) negated).text
      = (ListTest.ofLists negated (chunksOf (maxInList - 1) entries)).text c column := by
  rw [compileOneOf, chunksOf_map]
  rcases chunksOf (maxInList - 1) entries with _ | ⟨list, _ | ⟨other, rest⟩⟩
  · cases negated <;> exact Sql.text_ofText _
  · exact text_one c column negated list
  · exact text_several c column negated (list :: other :: rest)

/-- **The values are bound in their order**, whatever the lists are. -/
theorem params_compileOneOf (c : Config) (column : String) (values : List Value)
    (negated : Bool) :
    (compileOneOf c column values negated).params = values.filter fun v => !v.isRaw := by
  have hone : (fun list => (compileOneOf.one c column negated list).flatMap Piece.params)
      = List.filter fun v => !v.isRaw := funext fun list => params_one c column negated list
  have hseveral (lists : List (List Value)) : Sql.params ("(" ++ Sql.joined
      (if negated then " and " else " or ") (lists.map (compileOneOf.one c column negated)) ++ ")")
        = lists.flatten.filter fun v => !v.isRaw := by
    rw [Sql.params_append, Sql.params_append, Sql.params_ofText, Sql.params_ofText,
      List.nil_append, List.append_nil, Sql.params, Sql.flatMap_joined rfl, List.flatMap_map, hone,
      List.flatMap_def, List.filter_flatten]
  suffices (compileOneOf c column values negated).params
      = (chunksOf (maxInList - 1) values).flatten.filter fun v => !v.isRaw by
    rwa [flatten_chunksOf] at this
  rw [compileOneOf]
  rcases chunksOf (maxInList - 1) values with _ | ⟨list, _ | ⟨other, rest⟩⟩
  · cases negated <;> rfl
  · rw [List.flatten_singleton]
    exact params_one c column negated list
  · exact hseveral (list :: other :: rest)

end OracleSql
