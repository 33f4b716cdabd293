import OracleSql.Proofs.Condition.Fragments
import OracleSql.Query.Compile

/-!
# Operands in a row

A row is an operand and then others, each behind its connector; a connector and an operand at the
end of a row make it longer (`ReadsAsRow.extend`), and a row in parentheses is one operand again
(`ReadsAsRow.group`).  `connect` extends a row by every operand that stays, so what it puts together
says what the operands say, joined as they are (`OperandsDenote.connect`).
-/

namespace OracleSql

/-! ### Operands -/

/-- The text is an operand that says `f`. -/
def ReadsAs (s : String) (f : Formula) : Prop :=
  ∃ es, Fragment s es ∧ readOperand es = some f

theorem Atomic.readsAs {s : String} (h : Atomic s) : ReadsAs s (.atom (lex s)) :=
  h.exists_fragment

/-! ### Rows -/

/-- The elements of a row: an operand, and others behind their connectors. -/
def rowElements (first : List Element) (others : List (Connector × List Element)) :
    List Element :=
  first ++ others.flatMap fun p => .token (.word p.1.keyword) :: p.2

theorem connector?_keyword (connector : Connector) :
    (Token.word connector.keyword).connector? = some connector := by
  cases connector <;> decide +kernel

/-- **A row is cut into the operands it was made of.** -/
theorem cut_rowElements {first : List Element} {others : List (Connector × List Element)}
    (hfirst : Solid first) (hothers : ∀ p ∈ others, Solid p.2) :
    cut false [] (rowElements first others) = (first, others) := by
  induction others generalizing first with
  | nil =>
    rw [rowElements, List.flatMap_nil, hfirst]
    rfl
  | cons p others ih =>
    obtain ⟨connector, es⟩ := p
    obtain ⟨hes, hrest⟩ := List.forall_mem_cons.mp hothers
    have hcut := ih hes hrest
    rw [rowElements] at hcut
    rw [rowElements, List.flatMap_cons, hfirst, List.nil_append, List.cons_append, cut,
      connector?_keyword, hcut]
    simp

/-- The text is a row whose first operand says `f` and whose others say `fs`. -/
def ReadsAsRow (s : String) (f : Formula) (fs : List (Connector × Formula)) : Prop :=
  ∃ first others, Parses s (rowElements first others) ∧ Solid first ∧
    (∀ p ∈ others, Solid p.2) ∧ readOperand first = some f ∧ readOthers others = some fs

theorem readOthers_append {others : List (Connector × List Element)}
    {fs : List (Connector × Formula)} {connector : Connector} {es : List Element} {f : Formula}
    (hothers : readOthers others = some fs) (hes : readOperand es = some f) :
    readOthers (others ++ [(connector, es)]) = some (fs ++ [(connector, f)]) := by
  induction others generalizing fs with
  | nil =>
    cases hothers
    rw [List.nil_append, readOthers, hes]
    rfl
  | cons p others ih =>
    obtain ⟨k, first⟩ := p
    rw [readOthers] at hothers
    obtain ⟨g, hg, hothers⟩ := Option.bind_eq_some_iff.mp hothers
    obtain ⟨gs, hgs, hothers⟩ := Option.bind_eq_some_iff.mp hothers
    cases hothers
    rw [List.cons_append, readOthers, hg, ih hgs]
    rfl

theorem parses_keyword (connector : Connector) :
    Parses (" " ++ connector.keyword ++ " ") [.token (.word connector.keyword)] := by
  cases connector with
  | and => exact .of_tokens (by decide) (by decide)
  | or => exact .of_tokens (by decide) (by decide)

namespace ReadsAsRow

variable {s t : String} {f g : Formula} {fs : List (Connector × Formula)}

theorem of_readsAs (h : ReadsAs s f) : ReadsAsRow s f [] := by
  obtain ⟨es, hfragment, hread⟩ := h
  refine ⟨es, [], ?_, hfragment.solid, by simp, hread, rfl⟩
  rw [rowElements, List.flatMap_nil, List.append_nil]
  exact hfragment.toParses

theorem extend (hs : ReadsAsRow s f fs) (connector : Connector) (ht : ReadsAs t g) :
    ReadsAsRow (s ++ (" " ++ connector.keyword ++ " ") ++ t) f (fs ++ [(connector, g)]) := by
  obtain ⟨first, others, hparses, hfirst, hothers, hread, hreads⟩ := hs
  obtain ⟨es, hfragment, hes⟩ := ht
  have hdetached : Detached (" " ++ connector.keyword ++ " ") := by cases connector <;> decide
  have hclosed : Closed (" " ++ connector.keyword ++ " ") := by cases connector <;> decide
  have hne : " " ++ connector.keyword ++ " " ≠ "" := by cases connector <;> decide
  have hjoined := hparses.append (parses_keyword connector) (Or.inr hdetached)
  have hmeets : Meets s (" " ++ connector.keyword ++ " ") :=
    .of_detached hparses.complete hdetached
  have hwhole := hjoined.append hfragment.toParses (Or.inl (hmeets.closed_append hne hclosed))
  refine ⟨first, others ++ [(connector, es)], ?_, hfirst, ?_, hread,
    readOthers_append hreads hes⟩
  · rw [rowElements, List.flatMap_append, ← List.append_assoc, List.flatMap_singleton,
      List.append_cons]
    exact hwhole
  · intro p hp
    rcases List.mem_append.mp hp with hp | hp
    · exact hothers p hp
    · rw [List.mem_singleton.mp hp]
      exact hfragment.solid

theorem exists_parses (h : ReadsAsRow s f fs) :
    ∃ es, Parses s es ∧ readRow es = some (f.combine fs) := by
  obtain ⟨first, others, hparses, hfirst, hothers, hread, hreads⟩ := h
  refine ⟨_, hparses, ?_⟩
  simp only [readRow, cut_rowElements hfirst hothers, hread, hreads]
  rfl

/-- **A row says what its operands say**, joined as they are. -/
theorem read?_eq (h : ReadsAsRow s f fs) : read? s = some (f.combine fs) := by
  obtain ⟨es, hparses, hread⟩ := h.exists_parses
  rw [hparses.read?_eq, hread]

/-- **A row in parentheses is an operand.** -/
theorem group (h : ReadsAsRow s f fs) : ReadsAs ("(" ++ s ++ ")") (f.combine fs) := by
  obtain ⟨es, hparses, hread⟩ := h.exists_parses
  exact ⟨_, hparses.inner.group, hread⟩

theorem ne_empty (h : ReadsAsRow s f fs) : s ≠ "" := by
  rintro rfl
  have hread := h.read?_eq
  cases hread

end ReadsAsRow

/-! ### Connecting operands -/

/-- What a row of operands says; nothing when there are none. -/
def rowFormula : List (Connector × Formula) → Option Formula
  | [] => none
  | (_, f) :: rest => some (f.combine rest)

/-- The text says what the operands say, and is empty when there are none. -/
def Denotes (s : String) : List (Connector × Formula) → Prop
  | [] => s = ""
  | (_, f) :: rest => ReadsAsRow s f rest

theorem Denotes.read?_eq {s : String} {fs : List (Connector × Formula)} (h : Denotes s fs) :
    read? s = rowFormula fs := by
  cases fs with
  | nil =>
    rw [show s = "" from h]
    rfl
  | cons p fs => exact ReadsAsRow.read?_eq h

theorem Denotes.eq_empty_iff {s : String} {fs : List (Connector × Formula)} (h : Denotes s fs) :
    s = "" ↔ fs = [] := by
  cases fs with
  | nil => exact ⟨fun _ => rfl, fun _ => h⟩
  | cons p fs => exact ⟨fun hs => absurd hs (ReadsAsRow.ne_empty h), fun hs => nomatch hs⟩

/-- What a compiled condition says: nothing when it vanishes. -/
def Operand.Denotes (o : Operand) : Option Formula → Prop
  | none => o.vanishes = true ∧ o.sql.text = ""
  | some f => o.vanishes = false ∧ ReadsAs o.sql.text f

/-- What compiled conditions say, those that vanish left out together with their connectors. -/
inductive OperandsDenote : List (Connector × Operand) → List (Connector × Formula) → Prop where
  | nil : OperandsDenote [] []
  | skip {k : Connector} {o : Operand} {rest : List (Connector × Operand)}
      {fs : List (Connector × Formula)} :
      o.Denotes none → OperandsDenote rest fs → OperandsDenote ((k, o) :: rest) fs
  | keep {k : Connector} {o : Operand} {f : Formula} {rest : List (Connector × Operand)}
      {fs : List (Connector × Formula)} :
      o.Denotes (some f) → OperandsDenote rest fs → OperandsDenote ((k, o) :: rest) ((k, f) :: fs)

theorem OperandsDenote.append {as bs : List (Connector × Operand)}
    {fs gs : List (Connector × Formula)} (ha : OperandsDenote as fs) (hb : OperandsDenote bs gs) :
    OperandsDenote (as ++ bs) (fs ++ gs) := by
  induction ha with
  | nil => exact hb
  | skip ho _ ih => exact .skip ho ih
  | keep ho _ ih => exact .keep ho ih

theorem ReadsAsRow.connectTo {row : Sql} {f : Formula} {fs gs : List (Connector × Formula)}
    {operands : List (Connector × Operand)} (hrow : ReadsAsRow row.text f fs)
    (h : OperandsDenote operands gs) :
    ReadsAsRow (OracleSql.connectTo row operands).text f (fs ++ gs) := by
  induction h generalizing row fs with
  | nil =>
    rw [List.append_nil]
    exact hrow
  | @skip k o rest gs ho _ ih =>
    rw [OracleSql.connectTo, if_pos (Or.inl ho.1)]
    refine ih ?_
    rw [Sql.text_append, ho.2, String.append_empty]
    exact hrow
  | @keep k o g rest gs ho _ ih =>
    have hblank : ¬ (o.vanishes = true ∨ row.isBlank = true) := by
      rw [isBlank_iff, ho.1, not_or]
      exact ⟨Bool.false_ne_true, hrow.ne_empty⟩
    rw [OracleSql.connectTo, if_neg hblank, List.append_cons]
    refine ih ?_
    simp only [Sql.text_append, Sql.text_ofText]
    exact hrow.extend k ho.2

/-- **Connected operands say what the operands say**: the first one that stays opens the row,
whatever its connector is. -/
theorem OperandsDenote.connect {operands : List (Connector × Operand)}
    {fs : List (Connector × Formula)} (h : OperandsDenote operands fs) :
    Denotes (connect operands).text fs := by
  have hempty : ∀ row : Sql, row.text = "" → Denotes (connectTo row operands).text fs := by
    induction h with
    | nil => exact fun row hrow => hrow
    | @skip k o rest fs ho _ ih =>
      intro row hrow
      rw [connectTo, if_pos (Or.inl ho.1)]
      refine ih _ ?_
      rw [Sql.text_append, hrow, ho.2]
      rfl
    | @keep k o f rest fs ho hrest ih =>
      intro row hrow
      rw [connectTo, if_pos (Or.inr (isBlank_iff.mpr hrow))]
      refine ReadsAsRow.connectTo (.of_readsAs ?_) hrest
      rw [Sql.text_append, hrow, String.empty_append]
      exact ho.2
  exact hempty [] rfl

end OracleSql
