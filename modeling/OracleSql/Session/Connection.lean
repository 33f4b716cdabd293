import OracleSql.Dictionary.Row
import OracleSql.Error
import OracleSql.Procedure.Compile

/-!
# Connections

What a session asks of the database (`Request`), what each request is answered with
(`Request.Answer`), and how it fails (`Failure`).  A `Script` holds the replies that a connection
is going to give, one queue for each kind of request; a queue that has run out goes on with the
plain success.  Since a session is deterministic, the runs against all scripts are all the runs
there are.
-/

namespace OracleSql

/-- The handle under which the content of a large object is written. -/
structure Locator where
  column : String
  handle : UInt64
deriving DecidableEq

/-- What an output bind has received. -/
inductive OutValue where
  | null
  | int (n : Int64)
  | float (x : Binary64)
  | text (s : String)
  | locator (l : Locator)
  | rows (rows : List Row)

namespace OutValue

/-- The value as an integer: other numbers without their fraction and within the range, and texts
that write one, with white space around it. -/
def int64? : OutValue → Option Int64
  | int n => some n
  | float x => some (Int64.ofInt (x.clampToInt (-Int.pow 2 63) (Int.pow 2 63 - 1)))
  | text s => Text.int64OfText? (Text.trim s)
  | _ => none

def locator? : OutValue → Option Locator
  | locator l => some l
  | _ => none

end OutValue

/-- What a procedure has left in its outputs, by name. -/
abbrev Outputs := List (String × OutValue)

inductive Failure where
  | database (text : String)
  | execution (text : String)
deriving DecidableEq

def Failure.error : Failure → Error
  | database text => .database text
  | execution text => .execution text

theorem Failure.isCompile_error (f : Failure) : f.error.isCompile = false := by
  cases f <;> rfl

abbrev Reply (α : Type) := Except Failure α

/-- What a session asks of the database. -/
inductive Request where
  | execute (sql : String) (params : List Value)
  | fetch (sql : String) (params : List Value)
  /-- A statement that returns values into output binds. -/
  | returning (sql : String) (params : List Value) (outputs : List OutBinding)
  | writeBlob (locator : Locator) (content : List UInt8)
  | call (call : CompiledCall)
  | begin | commit | rollback
deriving DecidableEq

/-- What a request is answered with: the number of affected rows, rows, the values of output
binds, or nothing. -/
def Request.Answer : Request → Type
  | execute .. => UInt64
  | fetch .. => List Row
  | returning .. => List OutValue
  | call _ => Outputs
  | writeBlob .. | begin | commit | rollback => Unit

/-- A request and the reply to it. -/
structure Exchange where
  request : Request
  reply : Reply request.Answer

def Exchange.succeeds (e : Exchange) : Bool :=
  match e.reply with
  | .ok _ => true
  | .error _ => false

/-- The replies that a connection is going to give. -/
structure Script where
  counts : List (Reply UInt64)
  rows : List (Reply (List Row))
  outputs : List (Reply (List OutValue))
  blobs : List (Reply Unit)
  calls : List (Reply Outputs)
  begins : List (Reply Unit)
  commits : List (Reply Unit)
  rollbacks : List (Reply Unit)

namespace Script

/-- Every request succeeds plainly. -/
def empty : Script :=
  ⟨[], [], [], [], [], [], [], []⟩

/-- Further replies, behind those that are left. -/
def append (s t : Script) : Script where
  counts := s.counts ++ t.counts
  rows := s.rows ++ t.rows
  outputs := s.outputs ++ t.outputs
  blobs := s.blobs ++ t.blobs
  calls := s.calls ++ t.calls
  begins := s.begins ++ t.begins
  commits := s.commits ++ t.commits
  rollbacks := s.rollbacks ++ t.rollbacks

/-- The first reply of a queue, or the plain one when there is none. -/
def pop {α : Type} (plain : α) (queue : List (Reply α)) : Reply α × List (Reply α) :=
  (queue.head?.getD (.ok plain), queue.tail)

/-- **The reply to a request**, and the replies that are left.  Plainly a statement affects one
row, a query finds none, and there are no outputs. -/
def next (s : Script) : (r : Request) → Reply r.Answer × Script
  | .execute .. => let (reply, rest) := pop 1 s.counts; (reply, { s with counts := rest })
  | .fetch .. => let (reply, rest) := pop [] s.rows; (reply, { s with rows := rest })
  | .returning .. => let (reply, rest) := pop [] s.outputs; (reply, { s with outputs := rest })
  | .writeBlob .. => let (reply, rest) := pop () s.blobs; (reply, { s with blobs := rest })
  | .call _ => let (reply, rest) := pop [] s.calls; (reply, { s with calls := rest })
  | .begin => let (reply, rest) := pop () s.begins; (reply, { s with begins := rest })
  | .commit => let (reply, rest) := pop () s.commits; (reply, { s with commits := rest })
  | .rollback => let (reply, rest) := pop () s.rollbacks; (reply, { s with rollbacks := rest })

end Script

end OracleSql
