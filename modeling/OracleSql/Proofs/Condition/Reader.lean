import OracleSql.Proofs.Condition.Tokens
import OracleSql.Query.Basic

/-!
# Reading a condition

The second stage of reading: tokens become a tree of atoms.  It knows nothing of how conditions are
compiled.  Parentheses come first (`readTokens`, a stack of what is open); a row between
parentheses is then cut at its `and`s and `or`s, the `and` of a `between` excepted (`cut`); and of
the operands `and` takes its own before `or` does (`combine`).  An operand in parentheses of its
own is read in turn, and any other operand is an atom, known by its tokens.
-/

namespace OracleSql

/-! ### Formulas -/

/-- A tree of conditions. -/
inductive Formula where
  /-- A condition that is not taken apart. -/
  | atom (tokens : List Token)
  | and (f g : Formula)
  | or (f g : Formula)
deriving DecidableEq

namespace Formula

/-- The truth of a formula when the atoms have theirs. -/
def holds (v : List Token → Bool) : Formula → Bool
  | atom tokens => v tokens
  | and f g => f.holds v && g.holds v
  | or f g => f.holds v || g.holds v

/-- **Operands in a row**: `and` binds tighter than `or`. -/
def combine : Formula → List (Connector × Formula) → Formula
  | f, [] => f
  | f, (.and, g) :: rest => combine (f.and g) rest
  | f, (.or, g) :: rest => f.or (combine g rest)

/-- What follows a row of `and`s by an `and` is joined to all of it. -/
theorem combine_and {f g : Formula} {row : List (Connector × Formula)}
    (h : ∀ p ∈ row, p.1 = .and) : combine f (row ++ [(.and, g)]) = (combine f row).and g := by
  induction row generalizing f with
  | nil => rfl
  | cons p row ih =>
    obtain ⟨connector, f'⟩ := p
    obtain ⟨hconnector, hrow⟩ := List.forall_mem_cons.mp h
    cases hconnector
    exact ih hrow

/-- A row without `or` holds when all of it does. -/
theorem holds_combine_and (v : List Token → Bool) (f : Formula)
    {row : List (Connector × Formula)} (h : ∀ p ∈ row, p.1 = .and) :
    (combine f row).holds v = (f.holds v && row.all fun p => p.2.holds v) := by
  induction row generalizing f with
  | nil => rw [combine, List.all_nil, Bool.and_true]
  | cons p row ih =>
    obtain ⟨connector, g⟩ := p
    obtain ⟨hconnector, hrow⟩ := List.forall_mem_cons.mp h
    cases hconnector
    rw [combine, ih _ hrow, holds, List.all_cons, Bool.and_assoc]

/-- A row without `and` holds when any of it does. -/
theorem holds_combine_or (v : List Token → Bool) (f : Formula)
    {row : List (Connector × Formula)} (h : ∀ p ∈ row, p.1 = .or) :
    (combine f row).holds v = (f.holds v || row.any fun p => p.2.holds v) := by
  induction row generalizing f with
  | nil => rw [combine, List.any_nil, Bool.or_false]
  | cons p row ih =>
    obtain ⟨connector, g⟩ := p
    obtain ⟨hconnector, hrow⟩ := List.forall_mem_cons.mp h
    cases hconnector
    rw [combine, holds, ih _ hrow, List.any_cons]

end Formula

/-! ### The reader -/

/-- A token, or what stands in a pair of parentheses. -/
inductive Element where
  | token (t : Token)
  /-- The tokens between the parentheses, and what they say if they are read as a condition. -/
  | group (content : List Token) (formula? : Option Formula)

def Element.tokens : Element → List Token
  | token t => [t]
  | group content _ => .opening :: content ++ [.closing]

/-- The connector that a keyword stands for. -/
def Token.connector? : Token → Option Connector
  | word w =>
    if Text.sameIgnoringCase w "and" then some .and
    else if Text.sameIgnoringCase w "or" then some .or
    else none
  | _ => none

/-- Whether an `and` that belongs to the condition itself follows. -/
def Token.opensRange : Token → Bool
  | word w => Text.sameIgnoringCase w "between"
  | _ => false

/-- Cut a row at its connectors, after an operand that has been begun: this operand, and the others
with their connectors.  The `and` that a `between` is waiting for is no connector. -/
def cut (awaiting : Bool) (current : List Element) :
    List Element → List Element × List (Connector × List Element)
  | [] => (current, [])
  | .group content f :: es => cut awaiting (current ++ [.group content f]) es
  | .token t :: es =>
    match t.connector? with
    | none => cut (awaiting || t.opensRange) (current ++ [.token t]) es
    | some connector =>
      if awaiting ∧ connector = .and then cut false (current ++ [.token t]) es
      else
        let (operand, others) := cut false [] es
        (current, (connector, operand) :: others)

/-- An operand: one in parentheses is read in turn, any other is an atom. -/
def readOperand : List Element → Option Formula
  | [] => none
  | [.group _ formula?] => formula?
  | es => some (.atom (es.flatMap Element.tokens))

/-- The operands after the first one, each with its connector. -/
def readOthers : List (Connector × List Element) → Option (List (Connector × Formula))
  | [] => some []
  | (connector, es) :: rest => do
    let f ← readOperand es
    let others ← readOthers rest
    return (connector, f) :: others

/-- **What a row says.** -/
def readRow (es : List Element) : Option Formula := do
  let (first, others) := cut false [] es
  return (← readOperand first).combine (← readOthers others)

/-- **Parentheses first**: the elements that tokens add to `top`, a row inside the parentheses that
have been opened after the rows `outer`, the innermost one first. -/
def readTokens (top : List Element) (outer : List (List Element)) :
    List Token → Option (List Element)
  | [] => if outer.isEmpty then some top else none
  | t :: ts =>
    match t, outer with
    | .opening, _ => readTokens [] (top :: outer) ts
    | .closing, [] => none
    | .closing, row :: outer =>
      readTokens (row ++ [.group (top.flatMap Element.tokens) (readRow top)]) outer ts
    | t, _ => readTokens (top ++ [.token t]) outer ts

/-- **What a condition says**, as a tree of atoms. -/
def read? (s : String) : Option Formula :=
  (readTokens [] [] (lex s)).bind readRow

example :
    read? "a = ? or (b between ? and ? and c in (?, ?))" =
      some (.or (.atom (lex "a = ?"))
        (.and (.atom (lex "b between ? and ?")) (.atom (lex "c in (?, ?)")))) := by
  decide +kernel

end OracleSql
