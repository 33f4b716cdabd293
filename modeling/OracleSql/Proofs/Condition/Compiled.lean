import OracleSql.Proofs.Condition.Meaning

/-!
# The text of conditions

What the reader finds in compiled conditions is what the conditions say.  The induction is on
conditions and queries together.  Of a subquery it only carries that its parentheses are balanced:
its conditions are part of an atom of the condition around it.
-/

namespace OracleSql

variable {c : Config}

theorem Condition.tokens?_of_ok {condition : Condition} {o : Operand}
    (h : (condition.compile c).result = .ok o) :
    (condition.tokens? c).map Formula.atom = some (.atom (lex o.sql.text)) := by
  rw [tokens?, h]
  rfl

theorem Denotes.balanced {s : String} {fs : List (Connector × Formula)} (h : Denotes s fs) :
    Balanced s := by
  cases fs with
  | nil =>
    rw [show s = "" from h]
    decide
  | cons p fs =>
    obtain ⟨es, hparses, _⟩ := ReadsAsRow.exists_parses h
    exact hparses.balanced

/-! ### Conditions, joins and queries -/

section

attribute [local irreducible] Condition.compile compileOperands compileJoins Query.compile

mutual

/-- **A compiled condition says what the condition says.** -/
theorem Condition.denotes_compile (hc : c.Worded) :
    ∀ (condition : Condition) {o : Operand}, condition.Obeys .worded →
      (condition.compile c).result = .ok o → o.Denotes (condition.formula? c)
  | .compare column operator value, o, hobeys, h => by
    rw [Condition.Obeys] at hobeys
    rw [Condition.formula?, Condition.tokens?_of_ok h]
    rw [Condition.compile] at h
    obtain ⟨op, hop, h⟩ := Compile.result_bind_eq_ok.mp h
    cases h
    refine ⟨rfl, Atomic.readsAs ?_⟩
    simp only [Sql.text_append, Sql.text_ofText, text_ofValue hobeys.2]
    exact atomic_compare hc.tablePrefix hobeys.1 hop
  | .oneOf column values negated, o, hobeys, h => by
    rw [Condition.Obeys] at hobeys
    rw [Condition.formula?]
    rw [Condition.compile] at h
    cases h
    exact ⟨rfl, readsAs_compileOneOf hc.tablePrefix hobeys.1 hobeys.2 negated⟩
  | .isNull column negated, o, hobeys, h => by
    rw [Condition.Obeys] at hobeys
    rw [Condition.formula?, Condition.tokens?_of_ok h]
    rw [Condition.compile] at h
    cases h
    refine ⟨rfl, Atomic.readsAs ?_⟩
    rw [Sql.text_ofText]
    exact atomic_isNull hc.tablePrefix hobeys negated
  | .between column low high negated, o, hobeys, h => by
    rw [Condition.Obeys] at hobeys
    rw [Condition.formula?, Condition.tokens?_of_ok h]
    rw [Condition.compile] at h
    cases h
    refine ⟨rfl, Atomic.readsAs ?_⟩
    simp only [Sql.text_append, Sql.text_ofText, text_ofValue hobeys.2.1, text_ofValue hobeys.2.2]
    exact atomic_between hc.tablePrefix hobeys.1 negated
  | .columns first operator second, o, hobeys, h => by
    rw [Condition.Obeys] at hobeys
    rw [Condition.formula?, Condition.tokens?_of_ok h]
    rw [Condition.compile] at h
    obtain ⟨op, hop, h⟩ := Compile.result_bind_eq_ok.mp h
    cases h
    refine ⟨rfl, Atomic.readsAs ?_⟩
    rw [Sql.text_ofText]
    exact atomic_columns hc.tablePrefix hobeys.1 hobeys.2 hop
  | .group members, o, hobeys, h => by
    rw [Condition.Obeys] at hobeys
    rw [Condition.formula?]
    rw [Condition.compile] at h
    obtain ⟨operands, hoperands, h⟩ := Compile.result_bind_eq_ok.mp h
    have hdenotes := (operandsDenote_compileOperands hc members hobeys hoperands).connect
    generalize predicateFormulas c members = fs at hdenotes ⊢
    cases h
    cases fs with
    | nil =>
      have hblank : (connect operands).isBlank = true := isBlank_iff.mpr hdenotes
      rw [if_pos hblank]
      exact ⟨rfl, hdenotes⟩
    | cons p fs =>
      have hblank : ¬ (connect operands).isBlank = true := by
        rw [isBlank_iff]
        exact ReadsAsRow.ne_empty hdenotes
      rw [if_neg hblank]
      refine ⟨rfl, ?_⟩
      simp only [Sql.text_append, Sql.text_ofText]
      exact ReadsAsRow.group hdenotes
  | .subquery query negated, o, hobeys, h => by
    rw [Condition.Obeys] at hobeys
    rw [Condition.formula?, Condition.tokens?_of_ok h]
    rw [Condition.compile] at h
    obtain ⟨inner, hinner, h⟩ := Compile.result_bind_eq_ok.mp h
    have hbalanced := Query.balanced_compile hc query hobeys hinner
    cases h
    refine ⟨rfl, Atomic.readsAs ?_⟩
    simp only [Sql.text_append, Sql.text_ofText]
    exact atomic_exists hbalanced negated
  | .datePart part column operator value, o, hobeys, h => by
    rw [Condition.Obeys] at hobeys
    rw [Condition.formula?, Condition.tokens?_of_ok h]
    rw [Condition.compile] at h
    obtain ⟨op, hop, h⟩ := Compile.result_bind_eq_ok.mp h
    cases h
    exact ⟨rfl, Atomic.readsAs (atomic_compileDatePart hc.tablePrefix part hobeys.1 hop hobeys.2)⟩
  | .raw sql bindings, o, hobeys, h => by
    rw [Condition.Obeys] at hobeys
    cases hobeys

theorem operandsDenote_compileOperands (hc : c.Worded) :
    ∀ (predicates : List Predicate) {operands : List (Connector × Operand)},
      predicatesObey .worded predicates →
        (compileOperands c predicates).result = .ok operands →
          OperandsDenote operands (predicateFormulas c predicates)
  | [], operands, _, h => by
    rw [compileOperands] at h
    cases h
    rw [predicateFormulas]
    exact .nil
  | ⟨connector, condition⟩ :: rest, operands, hobeys, h => by
    rw [predicatesObey] at hobeys
    rw [compileOperands] at h
    obtain ⟨operand, hoperand, h⟩ := Compile.result_bind_eq_ok.mp h
    obtain ⟨others, hothers, h⟩ := Compile.result_bind_eq_ok.mp h
    have hdenotes := Condition.denotes_compile hc condition hobeys.1 hoperand
    have hrest := operandsDenote_compileOperands hc rest hobeys.2 hothers
    cases h
    rw [predicateFormulas]
    cases hformula : condition.formula? c with
    | none =>
      rw [hformula] at hdenotes
      exact .skip hdenotes hrest
    | some f =>
      rw [hformula] at hdenotes
      exact .keep hdenotes hrest

theorem balanced_compileJoins (hc : c.Worded) :
    ∀ (joins : List Join) {s : Sql}, joinsObey .worded joins →
      (compileJoins c joins).result = .ok s → Balanced s.text
  | [], s, _, h => by
    rw [compileJoins] at h
    cases h
    decide
  | ⟨kind, table, on⟩ :: rest, s, hobeys, h => by
    rw [joinsObey] at hobeys
    rw [compileJoins] at h
    obtain ⟨operands, hoperands, h⟩ := Compile.result_bind_eq_ok.mp h
    obtain ⟨others, hothers, h⟩ := Compile.result_bind_eq_ok.mp h
    have hon := (operandsDenote_compileOperands hc on hobeys.2.1 hoperands).connect.balanced
    have hrest := balanced_compileJoins hc rest hobeys.2.2 hothers
    have hkeyword : Balanced (" " ++ kind.keyword ++ " join ") := by cases kind <;> decide
    cases h
    simp only [Sql.text_append, Sql.text_ofText]
    exact ((hkeyword.append (hc.writes.wrapTable hobeys.1)).append
      (balanced_clause (by decide) hon)).append hrest

/-- **The parentheses of a compiled query are balanced.** -/
theorem Query.balanced_compile (hc : c.Worded) :
    ∀ (q : Query) {s : Sql}, q.Obeys .worded → (q.compile c).result = .ok s → Balanced s.text
  | ⟨table, columns, distinct, aggregate, joins, wheres, groupBy, havings, orderBy, limit, offset,
      lock⟩, s, hobeys, h => by
    rw [Query.Obeys] at hobeys
    obtain ⟨htable, hcolumns, haggregate, hjoins, hwheres, hgroup, hhavings, horder, hlock⟩ :=
      hobeys
    rw [Query.compile] at h
    obtain ⟨joined, hjoined, h⟩ := Compile.result_bind_eq_ok.mp h
    obtain ⟨whereOperands, hwhereOperands, h⟩ := Compile.result_bind_eq_ok.mp h
    obtain ⟨havingOperands, hhavingOperands, h⟩ := Compile.result_bind_eq_ok.mp h
    refine balanced_lockOrPage hc ?_ (balanced_queryClauses hc ?_ ?_ ?_ ?_ ?_ ?_ ?_ ?_) h
    · exact hlock
    · exact htable
    · exact hcolumns
    · exact haggregate
    · exact hgroup
    · exact horder
    · exact balanced_compileJoins hc joins hjoins hjoined
    · exact (operandsDenote_compileOperands hc wheres hwheres hwhereOperands).connect.balanced
    · exact (operandsDenote_compileOperands hc havings hhavings hhavingOperands).connect.balanced

end

end

/-! ### Lists of predicates -/

theorem denotes_compilePredicates (hc : c.Worded) {predicates : List Predicate}
    (hobeys : predicatesObey .worded predicates) {s : Sql}
    (h : (compilePredicates c predicates).result = .ok s) :
    Denotes s.text (predicateFormulas c predicates) := by
  obtain ⟨operands, hoperands, h⟩ := Compile.result_bind_eq_ok.mp h
  cases h
  exact (operandsDenote_compileOperands hc predicates hobeys hoperands).connect

theorem rowFormula_eq_none_iff {fs : List (Connector × Formula)} :
    rowFormula fs = none ↔ fs = [] := by
  cases fs with
  | nil => exact ⟨fun _ => rfl, fun _ => rfl⟩
  | cons p fs => exact ⟨nofun, nofun⟩

/-! ### The row bound of a probe -/

def rowBound : Formula :=
  .atom (lex "rownum = 1")

def boundedFormula : Option Formula → Formula
  | none => rowBound
  | some f => f.and rowBound

theorem compileOperands_append_singleton {predicates : List Predicate} {p : Predicate}
    {operands : List (Connector × Operand)}
    (h : (compileOperands c (predicates ++ [p])).result = .ok operands) :
    ∃ others o, (compileOperands c predicates).result = .ok others ∧
      (p.condition.compile c).result = .ok o ∧ operands = others ++ [(p.connector, o)] := by
  rw [compileOperands_append] at h
  obtain ⟨others, hothers, h⟩ := Compile.result_bind_eq_ok.mp h
  obtain ⟨last, hlast, h⟩ := Compile.result_bind_eq_ok.mp h
  obtain ⟨connector, condition⟩ := p
  rw [compileOperands] at hlast
  obtain ⟨o, ho, hlast⟩ := Compile.result_bind_eq_ok.mp hlast
  obtain ⟨none, hnone, hlast⟩ := Compile.result_bind_eq_ok.mp hlast
  rw [compileOperands] at hnone
  cases hnone
  cases hlast
  cases h
  exact ⟨others, o, hothers, ho, rfl⟩

theorem denotes_rowBound {o : Operand}
    (h : ((Condition.raw "rownum = 1" []).compile c).result = .ok o) :
    o.Denotes (some rowBound) := by
  rw [Condition.compile] at h
  cases h
  exact ⟨rfl, (Atomic.of_quiet (by decide +kernel) (by decide +kernel)).readsAs⟩

/-- No predicate gets another connector. -/
theorem mem_of_mem_predicateFormulas {predicates : List Predicate} {f : Connector × Formula}
    (h : f ∈ predicateFormulas c predicates) : ∃ p ∈ predicates, p.connector = f.1 := by
  induction predicates with
  | nil =>
    rw [predicateFormulas] at h
    cases h
  | cons p rest ih =>
    obtain ⟨connector, condition⟩ := p
    have hrest : f ∈ predicateFormulas c rest →
        ∃ p ∈ (⟨connector, condition⟩ :: rest : List Predicate), p.connector = f.1 := by
      intro hf
      obtain ⟨p, hp, heq⟩ := ih hf
      exact ⟨p, List.mem_cons_of_mem _ hp, heq⟩
    rw [predicateFormulas] at h
    cases hformula : condition.formula? c with
    | none =>
      rw [hformula] at h
      exact hrest h
    | some g =>
      rw [hformula] at h
      rcases List.mem_cons.mp h with rfl | h
      · exact ⟨_, List.mem_cons_self, rfl⟩
      · exact hrest h

/-- The predicates of a probe before its row bound. -/
def probeWheres (wheres : List Predicate) : List Predicate :=
  if wheres.any fun p => p.connector = .or then [Predicate.group wheres] else wheres

/-- **A row bound behind these predicates bounds all of them**: either no `or` stands before it, or
what stands before it is one operand. -/
theorem rowFormula_probeWheres (wheres : List Predicate) :
    rowFormula (predicateFormulas c (probeWheres wheres) ++ [(.and, rowBound)])
      = some (boundedFormula (predicatesFormula? c wheres)) := by
  rw [probeWheres, predicatesFormula?]
  split
  · rw [Predicate.group, Predicate.of, predicateFormulas, Condition.formula?, predicateFormulas]
    cases rowFormula (predicateFormulas c wheres) with
    | none => rfl
    | some f => rfl
  · next hor =>
    rw [Bool.not_eq_true, List.any_eq_false] at hor
    have hand : ∀ f ∈ predicateFormulas c wheres, f.1 = .and := by
      intro f hf
      obtain ⟨p, hp, heq⟩ := mem_of_mem_predicateFormulas hf
      have hconnector := hor p hp
      rw [decide_eq_true_eq, heq] at hconnector
      cases hf : f.1 with
      | and => rfl
      | or => exact absurd hf hconnector
    cases hfs : predicateFormulas c wheres with
    | nil => rfl
    | cons p fs =>
      rw [hfs] at hand
      rw [List.cons_append, rowFormula, rowFormula,
        Formula.combine_and fun q hq => hand q (List.mem_cons_of_mem _ hq)]
      rfl

theorem denotes_probe (hc : c.Worded) {q : Query} (hobeys : predicatesObey .worded q.wheres)
    {s : Sql} (h : (compilePredicates c q.probe.wheres).result = .ok s) :
    read? s.text = some (boundedFormula (predicatesFormula? c q.wheres)) := by
  have hprobe : q.probe.wheres = probeWheres q.wheres ++ [Predicate.raw "rownum = 1"] := rfl
  have hbefore : predicatesObey .worded (probeWheres q.wheres) := by
    rw [probeWheres]
    split
    · rw [Predicate.group, Predicate.of, predicatesObey, Condition.Obeys, predicatesObey]
      exact ⟨hobeys, trivial⟩
    · exact hobeys
  obtain ⟨operands, hoperands, h⟩ := Compile.result_bind_eq_ok.mp h
  cases h
  rw [hprobe] at hoperands
  obtain ⟨others, o, hothers, ho, rfl⟩ := compileOperands_append_singleton hoperands
  have hbound : OperandsDenote [((Predicate.raw "rownum = 1").connector, o)] [(.and, rowBound)] :=
    .keep (denotes_rowBound ho) .nil
  have hdenotes := (operandsDenote_compileOperands hc _ hbefore hothers).append hbound
  rw [hdenotes.connect.read?_eq]
  exact rowFormula_probeWheres q.wheres

/-- **Conditions keep their meaning.** -/
theorem conditions_keep_meaning (hc : c.Worded) {predicates : List Predicate}
    (hobeys : predicatesObey .worded predicates) :
    (∀ s : Sql, (compilePredicates c predicates).result = .ok s →
      read? s.text = predicatesFormula? c predicates ∧
        (s.text = "" ↔ predicatesFormula? c predicates = none) ∧
        ∀ v, (read? s.text).map (Formula.holds v) = predicatesHold? c v predicates) ∧
    ∀ (q : Query) (st : Statement), q.wheres = predicates → (q.exists? c).result = .ok st →
      ∃ joins wheres havings body : Sql,
        (compileJoins c q.joins).result = .ok joins ∧
        (compilePredicates c q.probe.wheres).result = .ok wheres ∧
        (compilePredicates c q.havings).result = .ok havings ∧
        (lockOrPage q.probe (queryClauses c q.probe joins wheres havings)).result = .ok body ∧
        st = body.statement ∧
        read? wheres.text = some (boundedFormula (predicatesFormula? c predicates)) := by
  refine ⟨fun s h => ?_, ?_⟩
  · have hdenotes := denotes_compilePredicates hc hobeys h
    have hread : read? s.text = predicatesFormula? c predicates := hdenotes.read?_eq
    refine ⟨hread, ?_, fun v => ?_⟩
    · rw [hdenotes.eq_empty_iff, predicatesFormula?, rowFormula_eq_none_iff]
    · rw [hread, holds_predicatesFormula?]
  · rintro q st rfl h
    rw [Query.exists?, Query.select] at h
    obtain ⟨body, hbody, h⟩ := Compile.result_bind_eq_ok.mp h
    cases h
    rw [Query.compile_eq] at hbody
    obtain ⟨joins, hjoins, hbody⟩ := Compile.result_bind_eq_ok.mp hbody
    obtain ⟨wheres, hwheres, hbody⟩ := Compile.result_bind_eq_ok.mp hbody
    obtain ⟨havings, hhavings, hbody⟩ := Compile.result_bind_eq_ok.mp hbody
    exact ⟨joins, wheres, havings, body, hjoins, hwheres, hhavings, hbody, rfl,
      denotes_probe hc hobeys hwheres⟩

/-- An empty group before the first condition, and a range in a group behind an `or`. -/
theorem conditions_keep_meaning_nested :
    let predicates := [.group [.group []], (Predicate.eq "id" (.int 1)).or,
      (Predicate.group [.of (.between "age" (.int 2) (.int 3) false), .isNull "date"]).or]
    let f : Formula := .or (.atom (lex "id = ?"))
      (.and (.atom (lex "age between ? and ?")) (.atom (lex "\"DATE\" is null")))
    let q : Query := { Query.ofTable "users" with wheres := predicates }
    (∃ s : Sql, (compilePredicates .standard predicates).result = .ok s ∧
      s.text = "id = ? or (age between ? and ? and \"DATE\" is null)" ∧ read? s.text = some f) ∧
    ∃ wheres : Sql, (compilePredicates .standard q.probe.wheres).result = .ok wheres ∧
      wheres.text = "(id = ? or (age between ? and ? and \"DATE\" is null)) and rownum = 1" ∧
      read? wheres.text = some (.and f rowBound) := by
  intro predicates f q
  have hc : Config.standard.Worded := ⟨by decide, by decide⟩
  have hobeys : predicatesObey .worded predicates :=
    ⟨⟨trivial, trivial⟩, ⟨(by decide : Dotted "id"), rfl⟩,
      ⟨⟨(by decide : Dotted "age"), rfl, rfl⟩, (by decide : Dotted "date"), trivial⟩, trivial⟩
  have hformula : predicatesFormula? .standard predicates = some f := by decide +kernel
  obtain ⟨s, hs, htext⟩ : ∃ s : Sql, (compilePredicates .standard predicates).result = .ok s ∧
      s.text = "id = ? or (age between ? and ? and \"DATE\" is null)" := ⟨_, rfl, rfl⟩
  obtain ⟨st, hst⟩ : ∃ st, (q.exists? .standard).result = .ok st := ⟨_, rfl⟩
  obtain ⟨hread, hexists⟩ := conditions_keep_meaning hc hobeys
  obtain ⟨_, wheres, _, _, _, hwheres, _, _, _, hreadWheres⟩ := hexists q st rfl hst
  rw [hformula] at hreadWheres
  refine ⟨⟨s, hs, htext, (hread s hs).1.trans hformula⟩, wheres, hwheres, ?_, hreadWheres⟩
  obtain ⟨t, ht, httext⟩ : ∃ t : Sql,
      (compilePredicates .standard q.probe.wheres).result = .ok t ∧ t.text =
        "(id = ? or (age between ? and ? and \"DATE\" is null)) and rownum = 1" := ⟨_, rfl, rfl⟩
  rw [ht] at hwheres
  cases hwheres
  exact httext

end OracleSql
