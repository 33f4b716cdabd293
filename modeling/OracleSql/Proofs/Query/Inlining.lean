import OracleSql.Proofs.Statement.Inlining
import OracleSql.Query.Compile

/-!
# Queries with their values written into them

`Query.inline lit` is the query with `lit v` as raw SQL in the place of every bound value `v`.  It
compiles to what the query compiles to, inlined (`Query.compile_inline`): compilation never looks
at a value.  It does look at whether a part of the statement is blank, and a value that is written
as nothing could make it so; but what a condition compiles to has text of its own, and so is blank
with its values exactly when it is blank without (`Sql.Steady`).
-/

namespace OracleSql

/-! ### Writing values into a query -/

mutual

def Condition.inline (lit : Value → String) : Condition → Condition
  | .compare column operator value => .compare column operator (value.inline lit)
  | .oneOf column values negated => .oneOf column (values.map (Value.inline lit)) negated
  | .isNull column negated => .isNull column negated
  | .between column low high negated =>
    .between column (low.inline lit) (high.inline lit) negated
  | .columns first operator second => .columns first operator second
  | .group members => .group (inlinePredicates lit members)
  | .subquery query negated => .subquery (query.inline lit) negated
  | .datePart part column operator value => .datePart part column operator (value.inline lit)
  | .raw sql bindings => .raw sql bindings

def inlinePredicates (lit : Value → String) : List Predicate → List Predicate
  | [] => []
  | ⟨connector, condition⟩ :: rest =>
    ⟨connector, condition.inline lit⟩ :: inlinePredicates lit rest

def inlineJoins (lit : Value → String) : List Join → List Join
  | [] => []
  | ⟨kind, table, on⟩ :: rest => ⟨kind, table, inlinePredicates lit on⟩ :: inlineJoins lit rest

def Query.inline (lit : Value → String) : Query → Query
  | ⟨table, columns, distinct, aggregate, joins, wheres, groupBy, havings, orderBy, limit, offset,
      lock⟩ =>
    ⟨table, columns, distinct, aggregate, inlineJoins lit joins, inlinePredicates lit wheres,
      groupBy, inlinePredicates lit havings, orderBy, limit, offset, lock⟩

end

theorem inlinePredicates_eq_map (lit : Value → String) (predicates : List Predicate) :
    inlinePredicates lit predicates
      = predicates.map fun p => ⟨p.connector, p.condition.inline lit⟩ := by
  induction predicates with
  | nil => rfl
  | cons p rest ih =>
    obtain ⟨connector, condition⟩ := p
    rw [inlinePredicates, ih, List.map_cons]

theorem Query.inline_probe (lit : Value → String) (q : Query) :
    q.probe.inline lit = (q.inline lit).probe := by
  obtain ⟨table, columns, distinct, aggregate, joins, wheres, groupBy, havings, orderBy, limit,
    offset, lock⟩ := q
  have hany : (inlinePredicates lit wheres).any (fun p => decide (p.connector = .or))
      = wheres.any fun p => decide (p.connector = .or) := by
    rw [inlinePredicates_eq_map, List.any_map]
    rfl
  have happend : ∀ as bs : List Predicate,
      inlinePredicates lit (as ++ bs) = inlinePredicates lit as ++ inlinePredicates lit bs := by
    intro as bs
    rw [inlinePredicates_eq_map, inlinePredicates_eq_map, inlinePredicates_eq_map, List.map_append]
  rw [Query.inline, Query.probe, Query.probe]
  dsimp only
  rw [hany, Query.inline, happend]
  split <;> rfl

/-! ### Blank parts -/

namespace Sql

/-- A part that is blank with its values written into it exactly when it is blank without. -/
def Steady (s : Sql) : Prop :=
  ∀ lit, (s.inline lit).isBlank = s.isBlank

theorem isBlank_append (s t : Sql) : isBlank (s ++ t) = (isBlank s && isBlank t) :=
  List.all_append

theorem steady_nil : Steady [] := fun _ => rfl

theorem steady_ofText (s : String) : Steady (ofText s) := fun _ => rfl

theorem Steady.append {s t : Sql} (hs : s.Steady) (ht : t.Steady) : Steady (s ++ t) := by
  intro lit
  rw [inline_append, isBlank_append, isBlank_append, hs lit, ht lit]

theorem steady_of_mem {s : Sql} {t : String} (h : Piece.text t ∈ s) (ht : t.isEmpty = false) :
    s.Steady := by
  have hblank : ∀ s : Sql, Piece.text t ∈ s → s.isBlank = false := by
    intro s hs
    rw [isBlank, List.all_eq_false]
    exact ⟨_, hs, by rw [Piece.sql, ht]; decide⟩
  intro lit
  have hinline : Piece.text t ∈ s.inline lit := List.mem_map.mpr ⟨_, h, rfl⟩
  rw [hblank s h, hblank _ hinline]

end Sql

def Operand.inline (lit : Value → String) (o : Operand) : Operand :=
  ⟨o.sql.inline lit, o.vanishes⟩

def inlineOperands (lit : Value → String) (operands : List (Connector × Operand)) :
    List (Connector × Operand) :=
  operands.map fun o => (o.1, o.2.inline lit)

theorem steady_connectTo {row : Sql} {operands : List (Connector × Operand)} (hrow : row.Steady)
    (h : ∀ o ∈ operands, o.2.sql.Steady) : (connectTo row operands).Steady :=
  connectTo_of_append (fun _ _ hs ht => hs.append ht) (fun _ _ => rfl) hrow h

theorem inline_connectTo (lit : Value → String) {row : Sql}
    {operands : List (Connector × Operand)} (hrow : row.Steady)
    (h : ∀ o ∈ operands, o.2.sql.Steady) :
    (connectTo row operands).inline lit
      = connectTo (row.inline lit) (inlineOperands lit operands) := by
  induction operands generalizing row with
  | nil => rfl
  | cons o rest ih =>
    obtain ⟨connector, operand⟩ := o
    have hoperand := h (connector, operand) List.mem_cons_self
    have hrest := fun p hp => h p (List.mem_cons_of_mem _ hp)
    change _ = connectTo (row.inline lit)
      ((connector, ⟨operand.sql.inline lit, operand.vanishes⟩) :: inlineOperands lit rest)
    rw [connectTo, connectTo, hrow lit]
    by_cases hc : operand.vanishes = true ∨ row.isBlank = true
    · rw [if_pos hc, if_pos hc, ih (hrow.append hoperand) hrest, Sql.inline_append]
    · rw [if_neg hc, if_neg hc, ih ((hrow.append fun _ => rfl).append hoperand) hrest,
        Sql.inline_append, Sql.inline_append]
      rfl

/-- **Connecting operands does not look at values.** -/
theorem inline_connect (lit : Value → String) {operands : List (Connector × Operand)}
    (h : ∀ o ∈ operands, o.2.sql.Steady) :
    (connect operands).inline lit = connect (inlineOperands lit operands) :=
  inline_connectTo lit Sql.steady_nil h

theorem steady_connect {operands : List (Connector × Operand)}
    (h : ∀ o ∈ operands, o.2.sql.Steady) : (connect operands).Steady :=
  steady_connectTo Sql.steady_nil h

theorem inline_clause (lit : Value → String) (keyword : String) {body : Sql}
    (h : body.Steady) : (clause keyword body).inline lit = clause keyword (body.inline lit) := by
  rw [clause, clause, h lit]
  split
  · rfl
  · rw [Sql.inline_append, Sql.inline_ofText]

/-! ### Conditions -/

theorem inline_compileOneOf_one (lit : Value → String) (c : Config) (column : String)
    (negated : Bool) (chunk : List Value) :
    (compileOneOf.one c column negated chunk).inline lit
      = compileOneOf.one c column negated (chunk.map (Value.inline lit)) := by
  rw [compileOneOf.one, compileOneOf.one, Sql.inline_append, Sql.inline_append,
    Sql.inline_ofValues]
  rfl

theorem inline_compileOneOf (lit : Value → String) (c : Config) (column : String)
    (values : List Value) (negated : Bool) :
    (compileOneOf c column values negated).inline lit
      = compileOneOf c column (values.map (Value.inline lit)) negated := by
  rw [compileOneOf, compileOneOf, chunksOf_map]
  match chunksOf (maxInList - 1) values with
  | [] => cases negated <;> rfl
  | [chunk] => exact inline_compileOneOf_one lit c column negated chunk
  | first :: second :: rest =>
    have hone : ((first :: second :: rest).map (compileOneOf.one c column negated)).map
          (Sql.inline lit)
        = ((first :: second :: rest).map (List.map (Value.inline lit))).map
          (compileOneOf.one c column negated) := by
      rw [List.map_map, List.map_map]
      exact List.map_congr_left fun chunk _ => inline_compileOneOf_one lit c column negated chunk
    simp only [List.map_cons, Sql.inline_append, Sql.inline_joined] at hone ⊢
    rw [hone]
    rfl

theorem steady_compileOneOf (c : Config) (column : String) (values : List Value)
    (negated : Bool) : (compileOneOf c column values negated).Steady := by
  rw [compileOneOf]
  split
  · cases negated <;> exact fun _ => rfl
  · exact Sql.steady_of_mem (t := ")") (by simp [compileOneOf.one, Sql.ofText]) (by decide)
  · exact Sql.steady_of_mem (t := ")") (by simp [Sql.ofText]) (by decide)

theorem inline_compileDatePart (lit : Value → String) (c : Config) (part : DatePart)
    (column op : String) (value : Value) :
    (compileDatePart c part column op value).inline lit
      = compileDatePart c part column op (value.inline lit) := by
  cases part <;> rfl

theorem steady_compileDatePart (c : Config) (part : DatePart) (column op : String)
    (value : Value) : (compileDatePart c part column op value).Steady := by
  cases part with
  | date => exact Sql.steady_of_mem (t := "trunc(") (by simp [compileDatePart, Sql.ofText]) (by decide)
  | time => exact Sql.steady_of_mem (t := " ") (by simp [compileDatePart, Sql.ofText]) (by decide)
  | day => exact Sql.steady_of_mem (t := " ") (by simp [compileDatePart, Sql.ofText]) (by decide)
  | month => exact Sql.steady_of_mem (t := " ") (by simp [compileDatePart, Sql.ofText]) (by decide)
  | year => exact Sql.steady_of_mem (t := " ") (by simp [compileDatePart, Sql.ofText]) (by decide)

/-! ### Queries -/

theorem inline_paginate (lit : Value → String) (inner : Sql) (limit offset : UInt64) :
    (paginate inner limit offset).inline lit = paginate (inner.inline lit) limit offset := by
  rw [paginate, paginate]
  split
  · simp only [Sql.inline_append]
    rfl
  · simp only [Sql.inline_append]
    rfl

theorem lockOrPage_inline (lit : Value → String) {q : Query} {body s : Sql}
    (h : (lockOrPage q body).result = .ok s) :
    (lockOrPage q (body.inline lit)).result = .ok (s.inline lit) := by
  rw [lockOrPage] at h ⊢
  split at h
  · next hlock =>
    rw [if_pos hlock]
    obtain ⟨_, hwarn, h⟩ := Compile.result_bind_eq_ok.mp h
    cases h
    refine Compile.result_bind_eq_ok.mpr ⟨(), hwarn, ?_⟩
    rw [Sql.inline_append]
    rfl
  · next hlock =>
    rw [if_neg hlock]
    split at h
    · next hpage =>
      cases h
      rw [if_pos hpage, inline_paginate]
      rfl
    · next hpage =>
      cases h
      rw [if_neg hpage]
      rfl

theorem inline_queryClauses (lit : Value → String) (c : Config) (q : Query)
    {joins wheres havings : Sql} (hwheres : wheres.Steady) (hhavings : havings.Steady) :
    (queryClauses c q joins wheres havings).inline lit
      = queryClauses c q (joins.inline lit) (wheres.inline lit) (havings.inline lit) := by
  rw [queryClauses, queryClauses]
  simp only [Sql.inline_append, inline_clause lit _ hwheres, inline_clause lit _ hhavings]
  rfl

section

attribute [local irreducible] Condition.compile compileOperands compileJoins Query.compile

mutual

/-- **A condition with its values written into it** compiles to the same operand with the values
written into that. -/
theorem Condition.compile_inline (lit : Value → String) (c : Config) :
    ∀ (condition : Condition) {o : Operand}, (condition.compile c).result = .ok o →
      ((condition.inline lit).compile c).result = .ok (o.inline lit) ∧ o.sql.Steady
  | .compare column operator value, o, h => by
    rw [Condition.compile] at h
    obtain ⟨op, hop, h⟩ := Compile.result_bind_eq_ok.mp h
    cases h
    rw [Condition.inline, Condition.compile]
    exact ⟨Compile.result_bind_eq_ok.mpr ⟨op, hop, rfl⟩,
      Sql.steady_of_mem (t := " ") (by simp [Sql.ofText]) (by decide)⟩
  | .oneOf column values negated, o, h => by
    rw [Condition.compile] at h
    cases h
    rw [Condition.inline, Condition.compile, Operand.inline, inline_compileOneOf]
    exact ⟨rfl, steady_compileOneOf c column values negated⟩
  | .isNull column negated, o, h => by
    rw [Condition.compile] at h
    cases h
    rw [Condition.inline, Condition.compile]
    exact ⟨rfl, Sql.steady_ofText _⟩
  | .between column low high negated, o, h => by
    rw [Condition.compile] at h
    cases h
    rw [Condition.inline, Condition.compile]
    exact ⟨rfl, Sql.steady_of_mem (t := " and ") (by simp [Sql.ofText]) (by decide)⟩
  | .columns first operator second, o, h => by
    rw [Condition.compile] at h
    obtain ⟨op, hop, h⟩ := Compile.result_bind_eq_ok.mp h
    cases h
    rw [Condition.inline, Condition.compile]
    exact ⟨Compile.result_bind_eq_ok.mpr ⟨op, hop, rfl⟩, Sql.steady_ofText _⟩
  | .group members, o, h => by
    rw [Condition.compile] at h
    obtain ⟨operands, hoperands, h⟩ := Compile.result_bind_eq_ok.mp h
    obtain ⟨hinline, hsteady⟩ := compileOperands_inline lit c members hoperands
    have hbody := steady_connect hsteady
    rw [Condition.inline, Condition.compile]
    cases h
    constructor
    · refine Compile.result_bind_eq_ok.mpr ⟨_, hinline, ?_⟩
      dsimp only
      rw [← inline_connect lit hsteady, hbody lit]
      split
      · rfl
      · rw [Operand.inline, Sql.inline_append, Sql.inline_append]
        rfl
    · split
      · exact hbody
      · exact Sql.steady_of_mem (t := "(") (by simp [Sql.ofText]) (by decide)
  | .subquery query negated, o, h => by
    rw [Condition.compile] at h
    obtain ⟨inner, hinner, h⟩ := Compile.result_bind_eq_ok.mp h
    cases h
    rw [Condition.inline, Condition.compile]
    constructor
    · refine Compile.result_bind_eq_ok.mpr ⟨_, Query.compile_inline lit c query hinner, ?_⟩
      rw [Operand.inline, Sql.inline_append, Sql.inline_append]
      rfl
    · exact Sql.steady_of_mem (t := ")") (by simp [Sql.ofText]) (by decide)
  | .datePart part column operator value, o, h => by
    rw [Condition.compile] at h
    obtain ⟨op, hop, h⟩ := Compile.result_bind_eq_ok.mp h
    cases h
    rw [Condition.inline, Condition.compile, Operand.inline, inline_compileDatePart]
    exact ⟨Compile.result_bind_eq_ok.mpr ⟨op, hop, rfl⟩,
      steady_compileDatePart c part column op value⟩
  | .raw sql bindings, o, h => by
    rw [Condition.compile] at h
    cases h
    rw [Condition.inline, Condition.compile]
    exact ⟨rfl, fun _ => rfl⟩

theorem compileOperands_inline (lit : Value → String) (c : Config) :
    ∀ (predicates : List Predicate) {operands : List (Connector × Operand)},
      (compileOperands c predicates).result = .ok operands →
        (compileOperands c (inlinePredicates lit predicates)).result
          = .ok (inlineOperands lit operands) ∧ ∀ o ∈ operands, o.2.sql.Steady
  | [], operands, h => by
    rw [compileOperands] at h
    cases h
    rw [inlinePredicates, compileOperands]
    exact ⟨rfl, by simp⟩
  | ⟨connector, condition⟩ :: rest, operands, h => by
    rw [compileOperands] at h
    obtain ⟨operand, hoperand, h⟩ := Compile.result_bind_eq_ok.mp h
    obtain ⟨others, hothers, h⟩ := Compile.result_bind_eq_ok.mp h
    cases h
    obtain ⟨hinline, hsteady⟩ := Condition.compile_inline lit c condition hoperand
    obtain ⟨hrest, hrestSteady⟩ := compileOperands_inline lit c rest hothers
    rw [inlinePredicates, compileOperands]
    constructor
    · refine Compile.result_bind_eq_ok.mpr ⟨_, hinline, ?_⟩
      exact Compile.result_bind_eq_ok.mpr ⟨_, hrest, rfl⟩
    · intro o ho
      rcases List.mem_cons.mp ho with rfl | ho
      · exact hsteady
      · exact hrestSteady o ho

theorem compileJoins_inline (lit : Value → String) (c : Config) :
    ∀ (joins : List Join) {s : Sql}, (compileJoins c joins).result = .ok s →
      (compileJoins c (inlineJoins lit joins)).result = .ok (s.inline lit)
  | [], s, h => by
    rw [compileJoins] at h
    cases h
    rw [inlineJoins, compileJoins]
    rfl
  | ⟨kind, table, on⟩ :: rest, s, h => by
    rw [compileJoins] at h
    obtain ⟨operands, hoperands, h⟩ := Compile.result_bind_eq_ok.mp h
    obtain ⟨others, hothers, h⟩ := Compile.result_bind_eq_ok.mp h
    cases h
    obtain ⟨hinline, hsteady⟩ := compileOperands_inline lit c on hoperands
    have hrest := compileJoins_inline lit c rest hothers
    rw [inlineJoins, compileJoins]
    refine Compile.result_bind_eq_ok.mpr ⟨_, hinline, ?_⟩
    refine Compile.result_bind_eq_ok.mpr ⟨_, hrest, ?_⟩
    rw [← inline_connect lit hsteady, ← inline_clause lit _ (steady_connect hsteady),
      Sql.inline_append, Sql.inline_append]
    rfl

/-- **A query with its values written into it** compiles to the same statement with the values
written into that. -/
theorem Query.compile_inline (lit : Value → String) (c : Config) :
    ∀ (q : Query) {s : Sql}, (q.compile c).result = .ok s →
      ((q.inline lit).compile c).result = .ok (s.inline lit)
  | ⟨table, columns, distinct, aggregate, joins, wheres, groupBy, havings, orderBy, limit, offset,
      lock⟩, s, h => by
    rw [Query.compile] at h
    obtain ⟨joined, hjoined, h⟩ := Compile.result_bind_eq_ok.mp h
    obtain ⟨whereOperands, hwheres, h⟩ := Compile.result_bind_eq_ok.mp h
    obtain ⟨havingOperands, hhavings, h⟩ := Compile.result_bind_eq_ok.mp h
    obtain ⟨hwheresInline, hwheresSteady⟩ := compileOperands_inline lit c wheres hwheres
    obtain ⟨hhavingsInline, hhavingsSteady⟩ := compileOperands_inline lit c havings hhavings
    rw [Query.inline, Query.compile]
    refine Compile.result_bind_eq_ok.mpr ⟨_, compileJoins_inline lit c joins hjoined, ?_⟩
    refine Compile.result_bind_eq_ok.mpr ⟨_, hwheresInline, ?_⟩
    refine Compile.result_bind_eq_ok.mpr ⟨_, hhavingsInline, ?_⟩
    rw [← inline_connect lit hwheresSteady, ← inline_connect lit hhavingsSteady]
    have hbody := lockOrPage_inline lit h
    rw [inline_queryClauses lit c _ (steady_connect hwheresSteady)
      (steady_connect hhavingsSteady)] at hbody
    exact hbody

end

end

theorem compileWheres_inline (lit : Value → String) {c : Config} {predicates : List Predicate}
    {s : Sql} (h : (compileWheres c predicates).result = .ok s) :
    (compileWheres c (inlinePredicates lit predicates)).result = .ok (s.inline lit) := by
  obtain ⟨row, hrow, h⟩ := Compile.result_bind_eq_ok.mp h
  obtain ⟨operands, hoperands, hrow⟩ := Compile.result_bind_eq_ok.mp hrow
  cases hrow
  cases h
  obtain ⟨hinline, hsteady⟩ := compileOperands_inline lit c predicates hoperands
  refine Compile.result_bind_eq_ok.mpr ⟨connect (inlineOperands lit operands), ?_, ?_⟩
  · exact Compile.result_bind_eq_ok.mpr ⟨_, hinline, rfl⟩
  · rw [← inline_connect lit hsteady, inline_clause lit _ (steady_connect hsteady)]
    rfl

end OracleSql
