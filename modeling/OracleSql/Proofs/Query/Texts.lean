import OracleSql.Proofs.Query.Rules
import OracleSql.Proofs.Statement.Placeholders

/-!
# The texts of a query

Between its values and its conditions a query writes texts: the select list, the order, the lock
and the bounds of a page.  They are made of names, of the SQL that is brought along, of parentheses
in pairs, and of plain words.  So a property of texts holds of them under rules for the query when
it holds of these and composes (`Rules.Writes`).
-/

namespace OracleSql

/-- A character that neither opens nor closes anything and stands for no value. -/
def isPlain (ch : Char) : Bool :=
  !isMark ch && ch != '(' && ch != ')'

def Plain (s : String) : Prop :=
  ∀ ch ∈ s.toList, isPlain ch = true

instance (s : String) : Decidable (Plain s) :=
  List.decidableBAll _ _

theorem isPlain_of_isDigit {ch : Char} (h : ch.isDigit = true) : isPlain ch = true := by
  have hne : ∀ d : Char, d.isDigit = false → ch ≠ d := by
    rintro d hd rfl
    rw [h] at hd
    cases hd
  simp [isPlain, isMark, hne '\'' (by decide), hne '"' (by decide), hne '?' (by decide),
    hne '(' (by decide), hne ')' (by decide)]

theorem plain_toString (n : Nat) : Plain (toString n) := by
  intro ch hch
  exact isPlain_of_isDigit (Text.isDigit_of_mem_toString hch)

/-- What is needed for a property `P` of the texts that queries write under the rules. -/
structure Rules.Writes (r : Rules) (c : Config) (P : String → Prop) : Prop where
  composes : Text.Composes P
  plain : ∀ s, Plain s → P s
  parentheses : ∀ s, P s → P ("(" ++ s ++ ")")
  column : ∀ name, r.name name → P (Identifier.wrap c name)
  table : ∀ name, r.name name → P (Identifier.wrapTable c name)
  fragment : ∀ sql, r.fragment sql → P sql
  trimmed : ∀ sql, r.fragment sql → P (Text.trim sql)
  function : ∀ name, r.function name → P name

namespace Rules.Writes

variable {r : Rules} {c : Config} {P : String → Prop}

theorem append (h : r.Writes c P) {s t : String} (hs : P s) (ht : P t) : P (s ++ t) :=
  h.composes.append s t hs ht

theorem word (h : r.Writes c P) (p : Prop) [Decidable p] {s t : String} (hs : Plain s)
    (ht : Plain t) : P (if p then s else t) := by
  split
  · exact h.plain s hs
  · exact h.plain t ht

theorem columnList (h : r.Writes c P) {names : List String}
    (hnames : ∀ name ∈ names, r.name name) : P (Identifier.columnList c names) := by
  refine h.composes.intercalate (h.plain _ (by decide)) fun t ht => ?_
  obtain ⟨name, hname, rfl⟩ := List.mem_map.mp ht
  exact h.column name (hnames name hname)

theorem selectList (h : r.Writes c P) {q : Query} (hcolumns : ∀ item ∈ q.columns, item.Obeys r)
    (haggregate : ∀ a ∈ q.aggregate, a.Obeys r) : P (OracleSql.selectList c q) := by
  rw [OracleSql.selectList]
  split
  · next a ha =>
    have hobeys := haggregate a ha
    have hlist : P (if a.columns.isEmpty then "*" else Identifier.columnList c a.columns) := by
      split
      · exact h.plain _ (by decide)
      · exact h.columnList hobeys.columns
    generalize (if a.columns.isEmpty then "*" else Identifier.columnList c a.columns) = columns
      at hlist ⊢
    have hdistinct : P (if q.distinct ∧ columns ≠ "*" then "distinct " else "") :=
      h.word _ (by decide) (by decide)
    have hfunction := h.append (h.plain "select " (by decide)) (h.function _ hobeys.function)
    have hcall := h.parentheses _ (h.append hdistinct hlist)
    have haggregate := h.append (h.append hfunction hcall) (h.plain " as aggregate" (by decide))
    have hclose : ") as aggregate" = ")" ++ " as aggregate" := rfl
    rw [hclose]
    simpa only [String.append_assoc] using haggregate
  · refine h.append (h.word _ (by decide) (by decide)) ?_
    split
    · exact h.plain _ (by decide)
    · refine h.composes.intercalate (h.plain _ (by decide)) fun t ht => ?_
      obtain ⟨item, hitem, rfl⟩ := List.mem_map.mp ht
      have hobeys := hcolumns item hitem
      cases item with
      | column name => exact h.column name hobeys
      | raw sql => exact h.fragment sql hobeys

theorem groupClause (h : r.Writes c P) {names : List String}
    (hnames : ∀ name ∈ names, r.name name) :
    P (if names.isEmpty then "" else " group by " ++ Identifier.columnList c names) := by
  split
  · exact h.composes.empty
  · exact h.append (h.plain _ (by decide)) (h.columnList hnames)

theorem orderList (h : r.Writes c P) {items : List SortItem}
    (hitems : ∀ item ∈ items, item.Obeys r) : P (OracleSql.orderList c items) := by
  refine h.composes.intercalate (h.plain _ (by decide)) fun t ht => ?_
  obtain ⟨item, hitem, rfl⟩ := List.mem_map.mp ht
  have hobeys := hitems item hitem
  cases item with
  | column name direction =>
    have hdirection : P direction.keyword := by
      cases direction
      · exact h.plain _ (by decide)
      · exact h.plain _ (by decide)
    exact h.append (h.append (h.column name hobeys) (h.plain _ (by decide))) hdirection
  | raw sql => exact h.fragment sql hobeys

theorem orderClause (h : r.Writes c P) {items : List SortItem}
    (hitems : ∀ item ∈ items, item.Obeys r) :
    P (if items.isEmpty then "" else " order by " ++ OracleSql.orderList c items) := by
  split
  · exact h.composes.empty
  · exact h.append (h.plain _ (by decide)) (h.orderList hitems)

theorem lockClause (h : r.Writes c P) {lock : Option Lock} (hlock : ∀ l ∈ lock, l.Obeys r) :
    P (OracleSql.lockClause lock) := by
  cases lock with
  | none => exact h.composes.empty
  | some l =>
    cases l with
    | raw sql => exact h.append (h.plain _ (by decide)) (h.trimmed sql (hlock _ rfl))
    | update => exact h.plain _ (by decide)
    | shared => exact h.composes.empty

theorem rowConstraint (h : r.Writes c P) (limit offset : UInt64) :
    P (OracleSql.rowConstraint limit offset) := by
  have hnumber : ∀ n : Nat, P (toString n) := fun n => h.plain _ (plain_toString n)
  rw [OracleSql.rowConstraint]
  split
  · exact h.plain _ (by decide)
  · split
    · exact h.append (h.append (h.append (h.plain _ (by decide)) (hnumber _))
        (h.plain _ (by decide))) (hnumber _)
    · exact h.append (h.plain _ (by decide)) (hnumber _)

end Rules.Writes

end OracleSql
