import OracleSql.Binary64.Basic
import OracleSql.Toml.Moment

/-!
# TOML values and tables

A TOML text is a root table, filled by pairs whose keys are paths (`put`), and by headers, each of
which opens a table somewhere below the root for the pairs that follow it (`addSection`).  What may
be added to a table depends on how it came about, which is its `Origin`: a table is written once,
but a table that only stands on the way to another one may still be written later.
-/

namespace OracleSql

/-- How a table came about. -/
inductive Toml.Origin where
  /-- Written between braces; nothing is added to it. -/
  | inline
  /-- Opened by a header of its own. -/
  | header
  /-- Stands on the way to a table with a header. -/
  | implied
  /-- Stands on the way to the last part of a dotted key. -/
  | dotted
deriving DecidableEq

inductive Toml where
  | text (s : String)
  | integer (n : Int64)
  | float (x : Binary64)
  | bool (b : Bool)
  | moment (m : Toml.Moment)
  | list (items : List Toml)
  | table (origin : Toml.Origin) (entries : List (String × Toml))
  /-- Tables under headers in double brackets, the last one first. -/
  | tables (elements : List (List (String × Toml)))

namespace Toml

/-- The entries of a table. -/
abbrev Entries := List (String × Toml)

/-- Put a value in place of the one of a key. -/
def replace (entries : Entries) (key : String) (value : Toml) : Entries :=
  entries.map fun entry => if entry.1 = key then (key, value) else entry

/-- A pair of a text: the path to a table, a key in it, and a value. -/
structure Pair where
  path : List String
  key : String
  value : Toml

/-- **Put a value at the end of a dotted key.**  Tables on the way are made where there are none.
The last one has to be made by a dotted key itself, and so does every other one that is not merely
implied. -/
def put (key : String) (value : Toml) : List String → Entries → Option Entries
  | [], entries =>
    if (entries.lookup key).isSome then none else some (entries ++ [(key, value)])
  | step :: path, entries =>
    match entries.lookup step with
    | none => do
      return entries ++ [(step, table .dotted (← put key value path []))]
    | some (table .dotted inner) => do
      return replace entries step (table .dotted (← put key value path inner))
    | some (table .implied inner) =>
      if path.isEmpty then none
      else do return replace entries step (table .implied (← put key value path inner))
    | some (tables (last :: before)) =>
      if path.isEmpty then none
      else do return replace entries step (tables ((← put key value path last) :: before))
    | some _ => none

def putAll (pairs : List Pair) (entries : Entries) : Option Entries :=
  pairs.foldlM (fun entries p => put p.key p.value p.path entries) entries

/-- Change the table at the end of a path of headers.  Tables on the way are implied where there
are none, and of tables in double brackets the last one is meant. -/
def alterAt (change : Entries → Option Entries) : List String → Entries → Option Entries
  | [], entries => change entries
  | step :: path, entries =>
    match entries.lookup step with
    | none => do
      return entries ++ [(step, table .implied (← alterAt change path []))]
    | some (table .inline _) => none
    | some (table origin inner) => do
      return replace entries step (table origin (← alterAt change path inner))
    | some (tables (last :: before)) => do
      return replace entries step (tables ((← alterAt change path last) :: before))
    | some _ => none

/-- What pairs are put into. -/
inductive Header where
  | root
  /-- The table of a key in the table at the end of a path. -/
  | table (path : List String) (key : String)
  /-- One more of the tables of a key. -/
  | element (path : List String) (key : String)

/-- Open the table of a key and put pairs into it; it may not have been written before. -/
def openTable (key : String) (pairs : List Pair) (entries : Entries) : Option Entries :=
  match entries.lookup key with
  | none => do return entries ++ [(key, table .header (← putAll pairs []))]
  | some (table .implied inner) => do
    return replace entries key (table .header (← putAll pairs inner))
  | some _ => none

/-- Open one more of the tables of a key and put pairs into it. -/
def openElement (key : String) (pairs : List Pair) (entries : Entries) : Option Entries :=
  match entries.lookup key with
  | none => do return entries ++ [(key, tables [← putAll pairs []])]
  | some (tables elements) => do
    return replace entries key (tables ((← putAll pairs []) :: elements))
  | some _ => none

/-- A header and the pairs under it. -/
structure Section where
  header : Header
  pairs : List Pair

/-- **Add a section to the root table.** -/
def addSection (root : Entries) (s : Section) : Option Entries :=
  match s.header with
  | .root => putAll s.pairs root
  | .table path key => alterAt (openTable key s.pairs) path root
  | .element path key => alterAt (openElement key s.pairs) path root

/-- The root table that sections make up. -/
def ofSections (sections : List Section) : Option Entries :=
  sections.foldlM addSection []

end Toml

end OracleSql
