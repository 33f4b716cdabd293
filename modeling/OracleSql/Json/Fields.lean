import OracleSql.Json.Basic

/-!
# Reading descriptions out of JSON

A description is a record: an object with a member for each field, or the list of the values of
its fields in their order (`record?`).  Members of other names are passed over, but no field may
be given twice, and a list is no longer than the fields are; what a missing field means is said
where it is read (`Record.required`, `Record.optional`, `Record.nullable`).  An alternative is
either a word or an object with one member (`alternative?`), and a `Style` says how freely its
content may be written.

Descriptions contain descriptions.  So that a reader can call itself on a part, every function
here that hands out a part also hands out that it is smaller than the whole.
-/

namespace OracleSql.Json

/-- A value with the proof that it is smaller than another one. -/
abbrev Part (j : Json) := { v : Json // sizeOf v < sizeOf j }

theorem sizeOf_lt_of_mem_list {items : List Json} {v : Json} (h : v ∈ items) :
    sizeOf v < sizeOf (list items) := by
  have := List.sizeOf_lt_of_mem h
  simp
  omega

theorem sizeOf_lt_of_mem_object {members : Members} {name : String} {v : Json}
    (h : (name, v) ∈ members) : sizeOf v < sizeOf (object members) := by
  have := List.sizeOf_lt_of_mem h
  simp at this ⊢
  omega

/-! ### Records -/

/-- The fields of a record that are given, each with its value. -/
structure Record (j : Json) where
  given : List (String × Part j)

/-- **The fields of a record.**  In an object no field may occur twice; a list holds the values of
the first fields. -/
def record? (fields : List String) (j : Json) : Option (Record j) :=
  match j with
  | object members =>
    if fields.all fun name => decide ((members.map Prod.fst).count name ≤ 1) then
      some ⟨members.attach.map fun ⟨(name, v), h⟩ => (name, ⟨v, sizeOf_lt_of_mem_object h⟩)⟩
    else none
  | list items =>
    if items.length ≤ fields.length then
      some ⟨fields.zip (items.attach.map fun ⟨v, h⟩ => ⟨v, sizeOf_lt_of_mem_list h⟩)⟩
    else none
  | _ => none

namespace Record

variable {α : Type} {j : Json}

/-- A field that has to be there. -/
def required (r : Record j) (name : String) (read : Part j → Option α) : Option α :=
  (r.given.lookup name).bind read

/-- A field that has a value of its own when it is missing. -/
def optional (r : Record j) (name : String) (missing : α) (read : Part j → Option α) :
    Option α :=
  match r.given.lookup name with
  | none => some missing
  | some part => read part

/-- A field that may be missing or null. -/
def nullable (r : Record j) (name : String) (read : Part j → Option α) : Option (Option α) :=
  match r.given.lookup name with
  | none => some none
  | some ⟨null, _⟩ => some none
  | some part => (read part).map some

end Record

/-! ### Lists -/

/-- The items of a list, each read by itself. -/
def items {α : Type} (j : Json) (read : Part j → Option α) : Option (List α) :=
  match j with
  | list items => items.attach.mapM fun ⟨v, h⟩ => read ⟨v, sizeOf_lt_of_mem_list h⟩
  | _ => none

def pair? (j : Json) : Option (Json × Json) :=
  match j with
  | list [a, b] => some (a, b)
  | _ => none

/-! ### Alternatives -/

/-- How freely the content of an alternative is written. -/
inductive Style where
  /-- Fields stand in an object, and where there is no content nothing but null may stand. -/
  | strict
  /-- Fields may stand in a list, and an empty object may stand where there is no content. -/
  | lenient
deriving DecidableEq

/-- The word of an alternative, and its content when it has one. -/
def alternative? (j : Json) : Option (String × Option (Part j)) :=
  match j with
  | text word => some (word, none)
  | object [(word, v)] => some (word, some ⟨v, by simp; omega⟩)
  | _ => none

def content {α : Type} {j : Json} (part : Option (Part j)) (read : Part j → Option α) :
    Option α :=
  part.bind read

def contentRecord? (style : Style) (fields : List String) (j : Json) : Option (Record j) :=
  if style = .strict ∧ j.list?.isSome then none else j.record? fields

/-- An alternative without content. -/
def word {α : Type} {j : Json} (style : Style) (part : Option (Part j)) (a : α) : Option α :=
  match part with
  | none => some a
  | some ⟨null, _⟩ => some a
  | some ⟨object [], _⟩ => if style = .lenient then some a else none
  | some _ => none

/-! ### Values without parts -/

/-- Use a reader that looks at no parts. -/
def leaf {α : Type} {j : Json} (read : Json → Option α) (part : Part j) : Option α :=
  read part.val

def bool? : Json → Option Bool
  | bool b => some b
  | _ => none

def intWithin? (lo hi : Int) : Json → Option Int
  | int n => if lo ≤ n ∧ n ≤ hi then some n else none
  | _ => none

def int64? (j : Json) : Option Int64 :=
  (j.intWithin? (-Int.pow 2 63) (Int.pow 2 63 - 1)).map Int64.ofInt

def uint64? (j : Json) : Option UInt64 :=
  (j.intWithin? 0 (Int.pow 2 64 - 1)).map fun n => UInt64.ofNat n.toNat

def uint32? (j : Json) : Option UInt32 :=
  (j.intWithin? 0 (Int.pow 2 32 - 1)).map fun n => UInt32.ofNat n.toNat

def byte? (j : Json) : Option UInt8 :=
  (j.intWithin? 0 255).map fun n => UInt8.ofNat n.toNat

/-- Any number, as a double-precision number. -/
def binary64? : Json → Option Binary64
  | int n => some (Binary64.nearest (decide (n < 0)) n.natAbs 1)
  | float x => some x
  | _ => none

def listOf? {α : Type} (read : Json → Option α) (j : Json) : Option (List α) :=
  j.items (leaf read)

def pairOf? {α β : Type} (first : Json → Option α) (second : Json → Option β) (j : Json) :
    Option (α × β) := do
  let (a, b) ← j.pair?
  return (← first a, ← second b)

def wordOf? {α : Type} (style : Style) (words : List (String × α)) (j : Json) : Option α := do
  let (name, part) ← j.alternative?
  word style part (← words.lookup name)

/-! ### Writing -/

/-- An optional value, null when there is none. -/
def ofOption {α : Type} (write : α → Json) : Option α → Json
  | none => null
  | some a => write a

def ofList {α : Type} (write : α → Json) (xs : List α) : Json :=
  list (xs.map write)

def ofPair (a b : Json) : Json :=
  list [a, b]

/-- An alternative with content. -/
def tagged (name : String) (content : Json) : Json :=
  object [(name, content)]

def ofUInt64 (n : UInt64) : Json := int n.toNat

def ofUInt32 (n : UInt32) : Json := int n.toNat

end OracleSql.Json
