import OracleSql.Value

/-!
# Statements

While a statement is built it is a list of pieces (`Sql`): text, values, output binds, and raw
fragments that bring their own values along.  Its text and its parameters are two views of the
same pieces, so every value stands in the parameters in the order in which its placeholder stands
in the text.  `Statement` is what is left once the views are taken.

The views may as well be built up beside each other: a text, a list of parameters and a list of
output binds that are pushed to separately, piece after piece and in the same order, end as the same
statement (`Sql.statement_eq_foldl`).

`numbered` turns the placeholders into the positional binds `:1`, `:2`, …, and leaves question
marks inside literals and quoted identifiers alone.
-/

namespace OracleSql

inductive Piece where
  | text (s : String)
  /-- A value: a raw one stands in the text, any other is bound. -/
  | value (v : Value)
  /-- A placeholder for a result. -/
  | out (b : OutBinding)
  /-- A fragment that stands as it is, with the values for the placeholders in it. -/
  | raw (sql : String) (bindings : List Value)
deriving DecidableEq

namespace Piece

/-- What the piece adds to the text. -/
def sql : Piece → String
  | text s => s
  | value v => v.placeholder
  | out _ => "?"
  | raw s _ => s

/-- What the piece adds to the parameters. -/
def params : Piece → List Value
  | value v => if v.isRaw then [] else [v]
  | raw _ bindings => bindings
  | _ => []

/-- What the piece adds to the output binds. -/
def outputs : Piece → List OutBinding
  | out b => [b]
  | _ => []

end Piece

/-- A statement or a part of one. -/
abbrev Sql := List Piece

namespace Sql

/-- Text that stands as it is. -/
def ofText (s : String) : Sql := [.text s]

instance : Coe String Sql := ⟨ofText⟩

def ofValue (v : Value) : Sql := [.value v]

/-- One placeholder for a result. -/
def ofOut (b : OutBinding) : Sql := [.out b]

/-- The text, with placeholders. -/
def text (s : Sql) : String :=
  String.join (s.map Piece.sql)

/-- The values to bind, in the order of their placeholders. -/
def params (s : Sql) : List Value :=
  s.flatMap Piece.params

/-- The output binds, in the order of their placeholders. -/
def outputs (s : Sql) : List OutBinding :=
  s.flatMap Piece.outputs

def isBlank (s : Sql) : Bool :=
  s.all fun p => p.sql.isEmpty

/-- Parts with a text between them. -/
def joined (separator : String) : List Sql → Sql
  | [] => []
  | [s] => s
  | s :: rest => s ++ (ofText separator ++ joined separator rest)

/-- A list of values, separated by commas. -/
def ofValues (values : List Value) : Sql :=
  joined ", " (values.map ofValue)

def ofOuts (binds : List OutBinding) : Sql :=
  joined ", " (binds.map ofOut)

theorem text_append (s t : Sql) : (s ++ t).text = s.text ++ t.text := by
  simp [text]

@[simp] theorem text_ofText (s : String) : (ofText s).text = s := by
  simp [text, ofText, Piece.sql]

@[simp] theorem params_append (s t : Sql) : params (s ++ t) = params s ++ params t := by
  simp [params]

@[simp] theorem outputs_append (s t : Sql) : outputs (s ++ t) = outputs s ++ outputs t := by
  simp [outputs]

/-- What is collected from joined parts is collected from the parts, unless the text between them
adds something. -/
theorem flatMap_joined {α : Type} {f : Piece → List α} {separator : String}
    (h : f (.text separator) = []) (parts : List Sql) :
    (joined separator parts).flatMap f = parts.flatMap fun s => s.flatMap f := by
  induction parts with
  | nil => rfl
  | cons s rest ih =>
    cases rest with
    | nil => simp [joined]
    | cons t rest => simp_all [joined, ofText]

theorem text_joined (separator : String) (parts : List Sql) :
    (joined separator parts).text = separator.intercalate (parts.map text) := by
  induction parts with
  | nil => rfl
  | cons s rest ih =>
    cases rest with
    | nil => rw [joined, List.map_singleton, String.intercalate_singleton]
    | cons t rest =>
      have hjoined : joined separator (s :: t :: rest)
          = s ++ (ofText separator ++ joined separator (t :: rest)) := rfl
      rw [hjoined, text_append, text_append, text_ofText, ih, List.map_cons, List.map_cons,
        List.map_cons, String.intercalate_cons_cons, String.append_assoc]

theorem text_ofValues (values : List Value) :
    (ofValues values).text = ", ".intercalate (values.map Value.placeholder) := by
  have hvalue (v : Value) : (ofValue v).text = v.placeholder := by
    simp [text, ofValue, Piece.sql]
  rw [ofValues, text_joined, List.map_map]
  exact congrArg _ (List.map_congr_left fun v _ => hvalue v)

/-- A list binds its values that are not raw. -/
theorem params_ofValues (values : List Value) :
    (ofValues values).params = values.filter fun v => !v.isRaw := by
  rw [ofValues, params, flatMap_joined rfl, List.flatMap_map]
  induction values with
  | nil => rfl
  | cons v rest ih =>
    rw [List.flatMap_cons, ih, List.filter_cons]
    cases hraw : v.isRaw <;> simp [ofValue, Piece.params, hraw]

@[simp] theorem params_ofText (s : String) : params (ofText s) = [] := rfl

@[simp] theorem outputs_ofText (s : String) : outputs (ofText s) = [] := rfl

end Sql

theorem isBlank_iff {s : Sql} : s.isBlank = true ↔ s.text = "" := by
  rw [Sql.isBlank, List.all_eq_true, Sql.text]
  induction s with
  | nil => simp
  | cons p s ih =>
    rw [List.forall_mem_cons, ih, List.map_cons, String.join_cons, String.isEmpty_iff]
    simp

/-- A statement ready to be executed. -/
structure Statement where
  sql : String
  params : List Value
  /-- The binds of `returning … into`, which follow the parameters. -/
  outputs : List OutBinding
deriving DecidableEq

/-- The statement that pieces make up. -/
def Sql.statement (s : Sql) : Statement :=
  ⟨s.text, s.params, s.outputs⟩

/-- A statement that binds nothing. -/
def Statement.ofText (sql : String) : Statement :=
  ⟨sql, [], []⟩

/-- What a piece brings is pushed to the text, the parameters and the output binds. -/
def Statement.push (s : Statement) (p : Piece) : Statement :=
  ⟨s.sql ++ p.sql, s.params ++ p.params, s.outputs ++ p.outputs⟩

theorem Statement.foldl_push (s : Statement) (pieces : Sql) :
    pieces.foldl Statement.push s
      = ⟨s.sql ++ pieces.text, s.params ++ pieces.params, s.outputs ++ pieces.outputs⟩ := by
  induction pieces generalizing s with
  | nil => simp [Sql.text, Sql.params, Sql.outputs]
  | cons p pieces ih =>
    rw [List.foldl_cons, ih, Statement.push, Sql.text, Sql.text, List.map_cons, String.join_cons,
      Sql.params, Sql.params, List.flatMap_cons, Sql.outputs, Sql.outputs, List.flatMap_cons,
      String.append_assoc, List.append_assoc, List.append_assoc]

/-- **The views taken at the end are what is pushed piece by piece.** -/
theorem Sql.statement_eq_foldl (pieces : Sql) :
    pieces.statement = pieces.foldl Statement.push (.ofText "") := by
  rw [Statement.foldl_push, Statement.ofText, String.empty_append, List.nil_append, List.nil_append]
  rfl

/-! ### Positional binds -/

/-- Where a character of a statement stands. -/
inductive Quoting where
  | outside
  | literal
  | identifier
deriving DecidableEq

/-- What stands after a character; a quote of one kind means nothing inside the other kind. -/
def Quoting.step : Quoting → Char → Quoting
  | outside, '\'' => literal
  | outside, '"' => identifier
  | literal, '\'' => outside
  | identifier, '"' => outside
  | q, _ => q

/-- Number the placeholders of a text that starts in a given place, the first one `n + 1`.  The
numbers are not bounded; a signed counter of 32 bits agrees with them on every text with fewer than
`2 ^ 31` placeholders. -/
def numberFrom (q : Quoting) (n : Nat) : List Char → List Char
  | [] => []
  | c :: cs =>
    if c = '?' ∧ q = .outside then ':' :: (toString (n + 1)).toList ++ numberFrom q (n + 1) cs
    else c :: numberFrom (q.step c) n cs

/-- **The text with `:1`, `:2`, … for its placeholders.** -/
def numbered (sql : String) : String :=
  String.ofList (numberFrom .outside 0 sql.toList)

def Statement.numberedSql (s : Statement) : String :=
  numbered s.sql

example :
    numbered "a = ? and b = '?''?' and \"?\" = ?" = "a = :1 and b = '?''?' and \"?\" = :2" := by
  decide +kernel

end OracleSql
