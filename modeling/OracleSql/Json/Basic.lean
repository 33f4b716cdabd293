import OracleSql.Binary64.Basic
import OracleSql.Options

/-!
# JSON values

A JSON value keeps integers apart from other numbers, and an object keeps its members in the
order in which they were written.  In canonical form (`canonical`) the members of every object
are in increasing order of their names and each name occurs once, the last member of a name
standing for all of them.
-/

namespace OracleSql

inductive Json where
  | null
  | bool (b : Bool)
  | int (n : Int)
  /-- A number that is written with a fraction or an exponent, or is no 64-bit integer. -/
  | float (x : Binary64)
  | text (s : String)
  | list (items : List Json)
  | object (members : List (String × Json))
deriving Inhabited

/-- The members of an object of a JSON text. -/
abbrev Members := List (String × Json)

namespace Json

/-- Members in increasing order of their names, the last of each name. -/
def sortMembers (members : Members) : Members :=
  members.foldl (fun sorted m => insertSorted m.1 m.2 sorted) []

mutual

/-- The canonical form of a value. -/
def canonical : Json → Json
  | list items => list (canonicalItems items)
  | object members => object (sortMembers (canonicalMembers members))
  | j => j

def canonicalItems : List Json → List Json
  | [] => []
  | j :: rest => j.canonical :: canonicalItems rest

def canonicalMembers : Members → Members
  | [] => []
  | (name, j) :: rest => (name, j.canonical) :: canonicalMembers rest

end

def text? : Json → Option String
  | text s => some s
  | _ => none

def list? : Json → Option (List Json)
  | list items => some items
  | _ => none

def object? : Json → Option Members
  | object members => some members
  | _ => none

/-- The member of a name, if there is one. -/
def get? (j : Json) (name : String) : Option Json :=
  match j with
  | object members => members.lookup name
  | _ => none

end Json

end OracleSql
