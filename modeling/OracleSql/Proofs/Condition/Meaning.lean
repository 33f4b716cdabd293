import OracleSql.Proofs.Condition.Atoms

/-!
# Conditions keep their meaning

What a list of predicates says is told without its text.  As a tree (`predicatesFormula?`): groups
that say nothing are left out with their connectors, the first predicate that stays opens the row,
and the others are joined by their own connectors.  As a truth value (`predicatesHold?`): the list
holds when all predicates of one of its runs hold, a run being what stands between two `or`s.  The
tree holds when the list does, whichever atoms hold (`holds_predicatesFormula?`).
-/

namespace OracleSql

/-! ### What a list of predicates says -/

/-- The tokens of a condition that is not taken apart: those of its own text. -/
def Condition.tokens? (c : Config) (condition : Condition) : Option (List Token) :=
  (condition.compile c).result.toOption.map fun o => lex o.sql.text

mutual

/-- What a condition says; nothing when it is a group in which nothing is said. -/
def Condition.formula? (c : Config) : Condition → Option Formula
  | .group members => rowFormula (predicateFormulas c members)
  | .oneOf column values negated => some (oneOfFormula c column values negated)
  | .compare column operator value =>
    ((Condition.compare column operator value).tokens? c).map .atom
  | .isNull column negated => ((Condition.isNull column negated).tokens? c).map .atom
  | .between column low high negated =>
    ((Condition.between column low high negated).tokens? c).map .atom
  | .columns first operator second =>
    ((Condition.columns first operator second).tokens? c).map .atom
  | .subquery query negated => ((Condition.subquery query negated).tokens? c).map .atom
  | .datePart part column operator value =>
    ((Condition.datePart part column operator value).tokens? c).map .atom
  | .raw sql bindings => ((Condition.raw sql bindings).tokens? c).map .atom

/-- What the predicates of a list say, without those that say nothing. -/
def predicateFormulas (c : Config) : List Predicate → List (Connector × Formula)
  | [] => []
  | ⟨connector, condition⟩ :: rest =>
    match condition.formula? c with
    | none => predicateFormulas c rest
    | some f => (connector, f) :: predicateFormulas c rest

end

/-- **What a list of predicates says.** -/
def predicatesFormula? (c : Config) (predicates : List Predicate) : Option Formula :=
  rowFormula (predicateFormulas c predicates)

/-! ### When a list of predicates holds -/

/-- The runs of a row between its `or`s, after a run that has been begun. -/
def runsFrom (run : List Bool) : List (Connector × Bool) → List (List Bool)
  | [] => [run]
  | (.and, b) :: rest => runsFrom (run ++ [b]) rest
  | (.or, b) :: rest => run :: runsFrom [b] rest

/-- Whether a row holds: all of one of its runs does.  Of the first connector nothing is asked. -/
def rowHolds : List (Connector × Bool) → Option Bool
  | [] => none
  | (_, b) :: rest => some ((runsFrom [b] rest).any fun run => run.all id)

/-- Whether a list of values holds: any of its pieces, or all of them when it is negated. -/
def oneOfHolds (c : Config) (v : List Token → Bool) (column : String) (values : List Value)
    (negated : Bool) : Bool :=
  match chunksOf (maxInList - 1) values with
  | [] => v (lex (if negated then "1 = 1" else "0 = 1"))
  | chunks =>
    if negated then chunks.all fun chunk => v (lex (compileOneOf.one c column true chunk).text)
    else chunks.any fun chunk => v (lex (compileOneOf.one c column false chunk).text)

mutual

/-- Whether a condition holds when some atoms do; a group in which nothing is said neither holds
nor fails. -/
def Condition.holds? (c : Config) (v : List Token → Bool) : Condition → Option Bool
  | .group members => rowHolds (predicateTruths c v members)
  | .oneOf column values negated => some (oneOfHolds c v column values negated)
  | .compare column operator value =>
    ((Condition.compare column operator value).tokens? c).map v
  | .isNull column negated => ((Condition.isNull column negated).tokens? c).map v
  | .between column low high negated =>
    ((Condition.between column low high negated).tokens? c).map v
  | .columns first operator second => ((Condition.columns first operator second).tokens? c).map v
  | .subquery query negated => ((Condition.subquery query negated).tokens? c).map v
  | .datePart part column operator value =>
    ((Condition.datePart part column operator value).tokens? c).map v
  | .raw sql bindings => ((Condition.raw sql bindings).tokens? c).map v

/-- Which predicates of a list hold, without those that neither hold nor fail. -/
def predicateTruths (c : Config) (v : List Token → Bool) :
    List Predicate → List (Connector × Bool)
  | [] => []
  | ⟨connector, condition⟩ :: rest =>
    match condition.holds? c v with
    | none => predicateTruths c v rest
    | some b => (connector, b) :: predicateTruths c v rest

end

/-- **Whether a list of predicates holds.** -/
def predicatesHold? (c : Config) (v : List Token → Bool) (predicates : List Predicate) :
    Option Bool :=
  rowHolds (predicateTruths c v predicates)

variable {c : Config}

/-- The tree of a row holds when all of one of its runs does. -/
theorem holds_combine_eq_runsFrom (v : List Token → Bool) (f : Formula) (run : List Bool)
    (hrun : run.all id = f.holds v) (fs : List (Connector × Formula)) :
    (f.combine fs).holds v
      = (runsFrom run (fs.map fun p => (p.1, p.2.holds v))).any fun run => run.all id := by
  induction fs generalizing f run with
  | nil =>
    rw [List.map_nil, runsFrom, List.any_cons, List.any_nil, Bool.or_false, hrun]
    rfl
  | cons p fs ih =>
    obtain ⟨connector, g⟩ := p
    cases connector with
    | and =>
      refine ih (f.and g) (run ++ [g.holds v]) ?_
      rw [List.all_append, hrun, List.all_cons, List.all_nil, Bool.and_true]
      rfl
    | or =>
      have hg := ih g [g.holds v] (by simp)
      rw [List.map_cons, runsFrom, List.any_cons, hrun, ← hg]
      rfl

theorem holds_rowFormula (v : List Token → Bool) (fs : List (Connector × Formula)) :
    (rowFormula fs).map (Formula.holds v)
      = rowHolds (fs.map fun p => (p.1, p.2.holds v)) := by
  cases fs with
  | nil => rfl
  | cons p fs =>
    rw [rowFormula, Option.map_some, holds_combine_eq_runsFrom v p.2 [p.2.holds v] (by simp)]
    rfl

theorem holds_oneOfFormula (v : List Token → Bool) (column : String) (values : List Value)
    (negated : Bool) :
    (oneOfFormula c column values negated).holds v = oneOfHolds c v column values negated := by
  rw [oneOfFormula, oneOfHolds]
  cases chunksOf (maxInList - 1) values with
  | nil => rfl
  | cons chunk chunks =>
    cases negated with
    | false =>
      have hall : ∀ p ∈ chunks.map
          fun chunk => (Connector.or, oneOfFormula.one c column false chunk), p.1 = .or := by simp
      have hor := Formula.holds_combine_or v (oneOfFormula.one c column false chunk) hall
      rw [List.any_map] at hor
      exact hor
    | true =>
      have hall : ∀ p ∈ chunks.map
          fun chunk => (Connector.and, oneOfFormula.one c column true chunk), p.1 = .and := by simp
      have hand := Formula.holds_combine_and v (oneOfFormula.one c column true chunk) hall
      rw [List.all_map] at hand
      exact hand

mutual

/-- The tree of a condition holds when the condition does. -/
theorem Condition.holds_formula? (v : List Token → Bool) :
    ∀ condition : Condition, (condition.formula? c).map (Formula.holds v) = condition.holds? c v
  | .group members => by
    rw [Condition.formula?, Condition.holds?, holds_rowFormula, holds_predicateFormulas]
  | .oneOf column values negated => by
    rw [Condition.formula?, Condition.holds?, Option.map_some, holds_oneOfFormula]
  | .compare column operator value => by
    rw [Condition.formula?, Condition.holds?, Option.map_map]
    rfl
  | .isNull column negated => by
    rw [Condition.formula?, Condition.holds?, Option.map_map]
    rfl
  | .between column low high negated => by
    rw [Condition.formula?, Condition.holds?, Option.map_map]
    rfl
  | .columns first operator second => by
    rw [Condition.formula?, Condition.holds?, Option.map_map]
    rfl
  | .subquery query negated => by
    rw [Condition.formula?, Condition.holds?, Option.map_map]
    rfl
  | .datePart part column operator value => by
    rw [Condition.formula?, Condition.holds?, Option.map_map]
    rfl
  | .raw sql bindings => by
    rw [Condition.formula?, Condition.holds?, Option.map_map]
    rfl

theorem holds_predicateFormulas (v : List Token → Bool) :
    ∀ predicates : List Predicate,
      (predicateFormulas c predicates).map (fun p => (p.1, p.2.holds v))
        = predicateTruths c v predicates
  | [] => by
    rw [predicateFormulas, predicateTruths, List.map_nil]
  | ⟨connector, condition⟩ :: rest => by
    have hcondition := Condition.holds_formula? v condition
    have hrest := holds_predicateFormulas v rest
    rw [predicateFormulas, predicateTruths, ← hcondition]
    cases condition.formula? c with
    | none => exact hrest
    | some f => exact congrArg ((connector, f.holds v) :: ·) hrest

end

/-- **The tree of a list holds when the list does.** -/
theorem holds_predicatesFormula? (c : Config) (v : List Token → Bool)
    (predicates : List Predicate) :
    (predicatesFormula? c predicates).map (Formula.holds v) = predicatesHold? c v predicates := by
  rw [predicatesFormula?, predicatesHold?, holds_rowFormula, holds_predicateFormulas]

end OracleSql
