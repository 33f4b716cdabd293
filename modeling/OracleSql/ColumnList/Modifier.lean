import OracleSql.Binary64.Reader
import OracleSql.Schema.Column
import OracleSql.Text.Blank

/-!
# Modifiers of a column

In a column list a column may be followed by modifiers such as `:unique` or `:default=0`.  The
keywords are taken in any ASCII case and in a fixed order of preference, and what follows a
keyword is not looked at.  A text stands in single quotes, or runs to the next colon or comma.

Every reader yields what it read and the rest of the input, and the rest is an end of the input
(`modifier_suffix`).
-/

namespace OracleSql.ColumnList

/-- What a modifier says of its column. -/
inductive Modifier where
  | nullable | autoIncrement | primary | unique | index | nocache
  | default (value : DefaultValue)
  | comment (text : String)
  | allowed (values : List String)
  | start (value : UInt64)
deriving DecidableEq

/-- A choice yields what one of its sides yields. -/
theorem eq_some_of_orElse {α : Type} {x y : Option α} {a : α} (h : (x <|> y) = some a) :
    x = some a ∨ y = some a := by
  cases x with
  | none => exact .inr (by simpa using h)
  | some b => exact .inl (by simpa using h)

/-- What follows a keyword, which stands in any ASCII case. -/
def keyword? : List Char → List Char → Option (List Char)
  | [], cs => some cs
  | _ :: _, [] => none
  | k :: ks, c :: cs => if k = c.toLower then keyword? ks cs else none

theorem keyword?_suffix {ks cs rest : List Char} (h : keyword? ks cs = some rest) :
    rest <:+ cs := by
  fun_induction keyword? ks cs with
  | case1 cs => simp at h; exact h ▸ List.suffix_refl _
  | case2 => simp at h
  | case3 ks c cs ih => exact (ih h).trans (List.suffix_cons _ _)
  | case4 => simp at h

/-- At least one character of a class. -/
def run? (p : Char → Bool) (cs : List Char) : Option (List Char × List Char) :=
  if (cs.takeWhile p).isEmpty then none else some (cs.takeWhile p, cs.dropWhile p)

theorem run?_suffix {p : Char → Bool} {cs run rest : List Char}
    (h : run? p cs = some (run, rest)) : rest <:+ cs := by
  unfold run? at h
  split at h
  · simp at h
  · simp only [Option.some.injEq, Prod.mk.injEq] at h
    exact h.2 ▸ List.dropWhile_suffix _

/-! ### Texts and defaults -/

/-- A text between single quotes, none of which may be in it. -/
def quoted? : List Char → Option (String × List Char)
  | '\'' :: cs =>
    match cs.dropWhile (· ≠ '\'') with
    | _ :: rest => some (String.ofList (cs.takeWhile (· ≠ '\'')), rest)
    | [] => none
  | _ => none

/-- A text that runs up to one of the given characters, without white space around it. -/
def bare? (stops : List Char) (cs : List Char) : Option (String × List Char) :=
  (run? (fun c => !stops.contains c) cs).map fun (run, rest) =>
    (String.ofList (Text.trimList Text.isBlank run), rest)

/-- A quoted text, or one up to a colon or comma. -/
def text? (cs : List Char) : Option (String × List Char) :=
  quoted? cs <|> bare? [':', ','] cs

/-- The expressions that may be a default without quotes. -/
def defaultExpressions : List String :=
  ["null", "sysdate", "systimestamp", "current_date", "current_timestamp", "sys_guid()"]

/-- **What a default without quotes means**: a truth value, an integer, a number, one of the
expressions, or else a text. -/
def classify (s : String) : DefaultValue :=
  let word := Text.asciiLower s
  if word = "true" then .bool true
  else if word = "false" then .bool false
  else
    match Text.int64OfText? s with
    | some n => .int n
    | none =>
      match Binary64.ofText? s with
      | some x => .float x
      | none => if defaultExpressions.contains word then .raw s else .text s

/-- A default: a text in quotes, or one that is classified. -/
def default? (cs : List Char) : Option (DefaultValue × List Char) :=
  (quoted? cs).map (fun (s, rest) => (.text s, rest))
    <|> (bare? [':', ','] cs).map (fun (s, rest) => (classify s, rest))

theorem quoted?_suffix {cs rest : List Char} {s : String} (h : quoted? cs = some (s, rest)) :
    rest <:+ cs := by
  unfold quoted? at h
  split at h
  · rename_i cs
    split at h
    · rename_i c tail heq
      simp only [Option.some.injEq, Prod.mk.injEq] at h
      obtain ⟨-, rfl⟩ := h
      have := List.dropWhile_suffix (l := cs) (fun c => decide (c ≠ '\''))
      rw [heq] at this
      exact ((List.suffix_cons _ _).trans this).trans (List.suffix_cons _ _)
    · simp at h
  · simp at h

theorem bare?_suffix {stops cs rest : List Char} {s : String}
    (h : bare? stops cs = some (s, rest)) : rest <:+ cs := by
  unfold bare? at h
  obtain ⟨⟨run, rest'⟩, hr, he⟩ := Option.map_eq_some_iff.1 h
  simp only [Prod.mk.injEq] at he
  exact he.2 ▸ run?_suffix hr

theorem text?_suffix {cs rest : List Char} {s : String} (h : text? cs = some (s, rest)) :
    rest <:+ cs := by
  rcases eq_some_of_orElse h with h | h
  · exact quoted?_suffix h
  · exact bare?_suffix h

theorem default?_suffix {cs rest : List Char} {d : DefaultValue}
    (h : default? cs = some (d, rest)) : rest <:+ cs := by
  rcases eq_some_of_orElse h with h | h
  · obtain ⟨⟨s, r⟩, hq, he⟩ := Option.map_eq_some_iff.1 h
    simp only [Prod.mk.injEq] at he
    exact he.2 ▸ quoted?_suffix hq
  · obtain ⟨⟨s, r⟩, hq, he⟩ := Option.map_eq_some_iff.1 h
    simp only [Prod.mk.injEq] at he
    exact he.2 ▸ bare?_suffix hq

/-! ### Allowed values -/

/-- One allowed value: a quoted text, or one up to a bar, colon or comma. -/
def allowedValue? (cs : List Char) : Option (String × List Char) :=
  quoted? cs <|> bare? ['|', ':', ','] cs

theorem allowedValue?_suffix {cs rest : List Char} {s : String}
    (h : allowedValue? cs = some (s, rest)) : rest <:+ cs := by
  rcases eq_some_of_orElse h with h | h
  · exact quoted?_suffix h
  · exact bare?_suffix h

/-- Further allowed values, each after a bar. -/
def moreAllowed (cs : List Char) : List String × List Char :=
  match cs with
  | '|' :: cs =>
    match h : allowedValue? cs with
    | some (s, rest) =>
      have := (allowedValue?_suffix h).length_le
      let (more, rest) := moreAllowed rest
      (s :: more, rest)
    | none => ([], '|' :: cs)
  | cs => ([], cs)
termination_by cs.length

theorem moreAllowed_suffix (cs : List Char) : (moreAllowed cs).2 <:+ cs := by
  fun_induction moreAllowed cs with
  | case1 cs s rest h _ more rest' hm ih =>
    rw [hm] at ih
    exact (ih.trans (allowedValue?_suffix h)).trans (List.suffix_cons _ _)
  | case2 cs h => exact List.suffix_refl _
  | case3 cs _ => exact List.suffix_refl _

def allowedValues? (cs : List Char) : Option (List String × List Char) :=
  (allowedValue? cs).map fun (s, rest) => (s :: (moreAllowed rest).1, (moreAllowed rest).2)

theorem allowedValues?_suffix {cs rest : List Char} {values : List String}
    (h : allowedValues? cs = some (values, rest)) : rest <:+ cs := by
  obtain ⟨⟨s, r⟩, ha, he⟩ := Option.map_eq_some_iff.1 h
  simp only [Prod.mk.injEq] at he
  exact he.2 ▸ (moreAllowed_suffix r).trans (allowedValue?_suffix ha)

/-! ### Modifiers -/

/-- A number of at most 64 bits. -/
def start? (cs : List Char) : Option (UInt64 × List Char) := do
  let (digits, rest) ← run? Char.isDigit cs
  let n ← Text.natOfDigits? digits
  if n < Nat.pow 2 64 then some (UInt64.ofNat n, rest) else none

theorem start?_suffix {cs rest : List Char} {n : UInt64} (h : start? cs = some (n, rest)) :
    rest <:+ cs := by
  unfold start? at h
  obtain ⟨⟨digits, r⟩, hr, h⟩ := Option.bind_eq_some_iff.1 h
  obtain ⟨n, -, h⟩ := Option.bind_eq_some_iff.1 h
  split at h
  · simp only [Option.some.injEq, Prod.mk.injEq] at h
    exact h.2 ▸ run?_suffix hr
  · simp at h

/-- A keyword and then a value. -/
def keyed? {α : Type} (key : String) (value? : List Char → Option (α × List Char))
    (make : α → Modifier) (cs : List Char) : Option (Modifier × List Char) := do
  let (a, rest) ← value? (← keyword? key.toList cs)
  return (make a, rest)

theorem keyed?_suffix {α : Type} {key : String} {value? : List Char → Option (α × List Char)}
    {make : α → Modifier}
    (hv : ∀ {cs rest : List Char} {a : α}, value? cs = some (a, rest) → rest <:+ cs)
    {cs rest : List Char} {m : Modifier} (h : keyed? key value? make cs = some (m, rest)) :
    rest <:+ cs := by
  unfold keyed? at h
  obtain ⟨cs', hk, h⟩ := Option.bind_eq_some_iff.1 h
  obtain ⟨⟨a, r⟩, hr, h⟩ := Option.bind_eq_some_iff.1 h
  simp only [pure, Option.some.injEq, Prod.mk.injEq] at h
  exact h.2 ▸ (hv hr).trans (keyword?_suffix hk)

/-- The modifiers without a value, in order of preference. -/
def flags : List (String × Modifier) := [
  ("nullable", .nullable), ("nocache", .nocache), ("ai", .autoIncrement), ("primary", .primary),
  ("pk", .primary), ("unique", .unique), ("index", .index)]

/-- The first flag that the input starts with. -/
def flag? (cs : List Char) : Option (Modifier × List Char) :=
  flags.findSome? fun (key, m) => (keyword? key.toList cs).map fun rest => (m, rest)

theorem flag?_suffix {cs rest : List Char} {m : Modifier} (h : flag? cs = some (m, rest)) :
    rest <:+ cs := by
  obtain ⟨⟨key, m'⟩, -, h⟩ := List.exists_of_findSome?_eq_some h
  obtain ⟨r, hk, he⟩ := Option.map_eq_some_iff.1 h
  simp only [Prod.mk.injEq] at he
  exact he.2 ▸ keyword?_suffix hk

/-- **One modifier**, without the colon before it. -/
def modifier? (cs : List Char) : Option (Modifier × List Char) :=
  keyed? "default=" default? .default cs
    <|> keyed? "comment=" text? .comment cs
    <|> keyed? "in=" allowedValues? .allowed cs
    <|> keyed? "start=" start? .start cs
    <|> flag? cs

theorem modifier_suffix {cs rest : List Char} {m : Modifier}
    (h : modifier? cs = some (m, rest)) : rest <:+ cs := by
  rcases eq_some_of_orElse h with h | h
  · exact keyed?_suffix default?_suffix h
  rcases eq_some_of_orElse h with h | h
  · exact keyed?_suffix text?_suffix h
  rcases eq_some_of_orElse h with h | h
  · exact keyed?_suffix allowedValues?_suffix h
  rcases eq_some_of_orElse h with h | h
  · exact keyed?_suffix start?_suffix h
  · exact flag?_suffix h

/-- The modifiers that follow, each after a colon. -/
def modifiers (cs : List Char) : List Modifier × List Char :=
  match cs with
  | ':' :: cs =>
    match h : modifier? cs with
    | some (m, rest) =>
      have := (modifier_suffix h).length_le
      let (more, rest) := modifiers rest
      (m :: more, rest)
    | none => ([], ':' :: cs)
  | cs => ([], cs)
termination_by cs.length

theorem modifiers_suffix (cs : List Char) : (modifiers cs).2 <:+ cs := by
  fun_induction modifiers cs with
  | case1 cs m rest h _ more rest' hm ih =>
    rw [hm] at ih
    exact (ih.trans (modifier_suffix h)).trans (List.suffix_cons _ _)
  | case2 cs h => exact List.suffix_refl _
  | case3 cs _ => exact List.suffix_refl _

/-- What the modifier makes of a column. -/
def Modifier.modify (column : Column) : Modifier → Column
  | nullable => { column with nullable := true }
  | autoIncrement => { column with autoIncrement := true }
  | primary => { column with primary := true }
  | unique => { column with unique := true }
  | index => { column with index := true }
  | nocache => { column with nocache := true }
  | default value => { column with default := some value }
  | comment text => { column with comment := some text }
  | allowed values => { column with allowed := values }
  | start value => { column with startValue := some value }

end OracleSql.ColumnList
