import OracleSql.Descriptor.Query
import OracleSql.Proofs.Descriptor.Value
import OracleSql.Proofs.Query.Rules

/-!
# Forms of queries

Conditions, joins and queries contain one another, and so do their forms: in every record at every
depth, fields that may be missing can be left out and other members put in.  The forms follow the
recursion of the writers, and so do the two theorems about each of them: what is written is a form
(`Query.form_toJson`), and a form is read back (`Query.ofJson?_of_form`).
-/

namespace OracleSql

open Json

/-- Values are exact, whatever else there is. -/
def Rules.exact : Rules where
  name _ := True
  value := Value.IsExact
  fragment _ := True
  function _ := True
  raw _ bindings := ∀ v ∈ bindings, v.IsExact

/-! ### Words -/

theorem Connector.lookup_keyword (c : Connector) : Connector.words.lookup c.keyword = some c := by
  cases c <;> rfl

theorem DatePart.lookup_word (p : DatePart) : DatePart.words.lookup p.word = some p := by
  cases p <;> rfl

theorem JoinKind.lookup_keyword (k : JoinKind) : JoinKind.words.lookup k.keyword = some k := by
  cases k <;> rfl

theorem Direction.lookup_keyword (d : Direction) : Direction.words.lookup d.keyword = some d := by
  cases d <;> rfl

/-! ### Parts without parts of their own kind -/

theorem SelectItem.ofJson?_toJson (i : SelectItem) : SelectItem.ofJson? i.toJson = some i := by
  cases i <;> rfl

theorem Lock.ofJson?_toJson (style : Style) (l : Lock) : Lock.ofJson? style l.toJson = some l := by
  cases l <;> rfl

theorem Lock.toJson_ne_null (l : Lock) : l.toJson ≠ .null := by
  cases l <;> nofun

def SortItem.Form : SortItem → Json → Prop
  | column name direction =>
    TaggedForm "Column" (RecordForm [.required "column" (· = .text name),
      .optional "direction" (direction = .asc) (· = .text direction.keyword)])
  | raw sql => (· = tagged "Raw" (.text sql))

theorem SortItem.form_toJson (i : SortItem) : i.Form i.toJson := by
  cases i with
  | column name direction =>
    refine ⟨_, rfl, recordForm_of_forall₂ (show columnFields.Nodup by decide) ?_⟩
    exact .cons ⟨rfl, rfl⟩ (.cons ⟨rfl, rfl⟩ .nil)
  | raw sql => rfl

theorem SortItem.ofJson?_of_form (style : Style) {i : SortItem} {j : Json} (h : i.Form j) :
    SortItem.ofJson? style j = some i := by
  cases i with
  | column name direction =>
    obtain ⟨v, rfl, hv⟩ := h
    obtain ⟨r, hr, hfields⟩ := contentRecord?_of_form hv style
    simp only [List.forall_mem_cons] at hfields
    obtain ⟨hname, hdirection, -⟩ := hfields
    have hread : columnOfJson? style v = some (.column name direction) := by
      rw [columnOfJson?]
      refine read_eq hr ?_
      refine read_eq (Record.required_eq hname (leaf_text _)) ?_
      refine read_eq (Record.optional_eq hdirection (leaf_of_eq (wordOf?_text style direction.lookup_keyword))) ?_
      rfl
    simp only [ofJson?, tagged, alternative?, Option.bind_eq_bind, Option.bind_some, content, leaf,
      hread]
  | raw sql =>
    obtain rfl : j = tagged "Raw" (.text sql) := h
    rfl

def Aggregate.Form (a : Aggregate) : Json → Prop :=
  RecordForm [.required "function" (· = .text a.function),
    .optional "columns" (a.columns = []) (· = ofList .text a.columns)]

theorem Aggregate.form_toJson (a : Aggregate) : a.Form a.toJson :=
  recordForm_of_forall₂ (show fields.Nodup by decide)
    (.cons ⟨rfl, rfl⟩ (.cons ⟨rfl, rfl⟩ .nil))

theorem Aggregate.ofJson?_of_form {a : Aggregate} {j : Json} (h : a.Form j) :
    Aggregate.ofJson? j = some a := by
  obtain ⟨r, hr, hfields⟩ := record?_of_form h
  simp only [List.forall_mem_cons] at hfields
  obtain ⟨hfunction, hcolumns, -⟩ := hfields
  rw [ofJson?]
  refine read_eq hr ?_
  refine read_eq (Record.required_eq hfunction (leaf_text _)) ?_
  refine read_eq (Record.optional_eq hcolumns (leaf_texts _)) ?_
  rfl

/-! ### Forms -/

namespace Condition

def compareForm (column operator : String) (value : Value) : Json → Prop :=
  RecordForm [.required "column" (· = .text column), .required "operator" (· = .text operator),
    .required "value" (· = value.toJson)]

def oneOfForm (column : String) (values : List Value) (negated : Bool) : Json → Prop :=
  RecordForm [.required "column" (· = .text column),
    .required "values" (· = ofList Value.toJson values),
    .optional "negated" (negated = false) (· = .bool negated)]

def isNullForm (column : String) (negated : Bool) : Json → Prop :=
  RecordForm [.required "column" (· = .text column),
    .optional "negated" (negated = false) (· = .bool negated)]

def betweenForm (column : String) (low high : Value) (negated : Bool) : Json → Prop :=
  RecordForm [.required "column" (· = .text column), .required "low" (· = low.toJson),
    .required "high" (· = high.toJson), .optional "negated" (negated = false) (· = .bool negated)]

def columnsForm (first operator second : String) : Json → Prop :=
  RecordForm [.required "first" (· = .text first), .required "operator" (· = .text operator),
    .required "second" (· = .text second)]

def datePartForm (part : DatePart) (column operator : String) (value : Value) : Json → Prop :=
  RecordForm [.required "part" (· = .text part.word), .required "column" (· = .text column),
    .required "operator" (· = .text operator), .required "value" (· = value.toJson)]

def rawForm (sql : String) (bindings : List Value) : Json → Prop :=
  RecordForm [.required "sql" (· = .text sql),
    .optional "bindings" (bindings = []) (· = ofList Value.toJson bindings)]

end Condition

mutual

def Predicate.Form : Predicate → Json → Prop
  | ⟨connector, condition⟩ =>
    RecordForm [.optional "boolean" (connector = .and) (· = .text connector.keyword),
      .required "kind" condition.Form]

def Condition.Form : Condition → Json → Prop
  | .compare column operator value =>
    TaggedForm "Basic" (Condition.compareForm column operator value)
  | .oneOf column values negated =>
    TaggedForm "In" (Condition.oneOfForm column values negated)
  | .isNull column negated =>
    TaggedForm "Null" (Condition.isNullForm column negated)
  | .between column low high negated =>
    TaggedForm "Between" (Condition.betweenForm column low high negated)
  | .columns first operator second =>
    TaggedForm "Column" (Condition.columnsForm first operator second)
  | .group members => TaggedForm "Nested" (predicatesForm members)
  | .subquery query negated =>
    TaggedForm "Exists" (RecordForm [.required "query" query.Form,
      .optional "negated" (negated = false) (· = .bool negated)])
  | .datePart part column operator value =>
    TaggedForm "Date" (Condition.datePartForm part column operator value)
  | .raw sql bindings => TaggedForm "Raw" (Condition.rawForm sql bindings)

def predicatesForm : List Predicate → Json → Prop
  | [], j => j = .list []
  | p :: rest, j => ∃ first more, j = .list (first :: more) ∧ p.Form first ∧
      predicatesForm rest (.list more)

def Join.Form : Join → Json → Prop
  | ⟨kind, table, on⟩ =>
    RecordForm [.required "kind" (· = .text kind.keyword), .required "table" (· = .text table),
      .optional "on" (on = []) (predicatesForm on)]

def joinsForm : List Join → Json → Prop
  | [], j => j = .list []
  | join :: rest, j => ∃ first more, j = .list (first :: more) ∧ join.Form first ∧
      joinsForm rest (.list more)

/-- **The forms of a query.** -/
def Query.Form : Query → Json → Prop
  | ⟨table, columns, distinct, aggregate, joins, wheres, groupBy, havings, orderBy, limit, offset,
      lock⟩ =>
    RecordForm [.required "table" (· = .text table),
      .optional "columns" (columns = []) (· = ofList SelectItem.toJson columns),
      .optional "distinct" (distinct = false) (· = .bool distinct),
      .nullable "aggregate" Aggregate.Form aggregate,
      .optional "joins" (joins = []) (joinsForm joins),
      .optional "wheres" (wheres = []) (predicatesForm wheres),
      .optional "group_by" (groupBy = []) (· = ofList .text groupBy),
      .optional "havings" (havings = []) (predicatesForm havings),
      .optional "order_by" (orderBy = []) (ListForm SortItem.Form orderBy),
      .nullable "limit" (fun n j => j = ofUInt64 n) limit,
      .nullable "offset" (fun n j => j = ofUInt64 n) offset,
      .nullable "lock" (fun l j => j = l.toJson) lock]

end

/-! ### What is written is a form -/

mutual

theorem Predicate.form_toJson : ∀ p : Predicate, p.Form p.toJson
  | ⟨_, condition⟩ => recordForm_of_forall₂ (show Predicate.fields.Nodup by decide)
      (.cons ⟨rfl, rfl⟩ (.cons ⟨rfl, condition.form_toJson⟩ .nil))

theorem Condition.form_toJson : ∀ c : Condition, c.Form c.toJson
  | .compare .. => ⟨_, rfl, recordForm_of_forall₂
      (show ["column", "operator", "value"].Nodup by decide)
      (.cons ⟨rfl, rfl⟩ (.cons ⟨rfl, rfl⟩ (.cons ⟨rfl, rfl⟩ .nil)))⟩
  | .oneOf .. => ⟨_, rfl, recordForm_of_forall₂
      (show ["column", "values", "negated"].Nodup by decide)
      (.cons ⟨rfl, rfl⟩ (.cons ⟨rfl, rfl⟩ (.cons ⟨rfl, rfl⟩ .nil)))⟩
  | .isNull .. => ⟨_, rfl, recordForm_of_forall₂ (show ["column", "negated"].Nodup by decide)
      (.cons ⟨rfl, rfl⟩ (.cons ⟨rfl, rfl⟩ .nil))⟩
  | .between .. => ⟨_, rfl, recordForm_of_forall₂
      (show ["column", "low", "high", "negated"].Nodup by decide)
      (.cons ⟨rfl, rfl⟩ (.cons ⟨rfl, rfl⟩ (.cons ⟨rfl, rfl⟩ (.cons ⟨rfl, rfl⟩ .nil))))⟩
  | .columns .. => ⟨_, rfl, recordForm_of_forall₂
      (show ["first", "operator", "second"].Nodup by decide)
      (.cons ⟨rfl, rfl⟩ (.cons ⟨rfl, rfl⟩ (.cons ⟨rfl, rfl⟩ .nil)))⟩
  | .group members => ⟨_, rfl, predicatesForm_predicatesToJson members⟩
  | .subquery query _ => ⟨_, rfl, recordForm_of_forall₂ (show ["query", "negated"].Nodup by decide)
      (.cons ⟨rfl, query.form_toJson⟩ (.cons ⟨rfl, rfl⟩ .nil))⟩
  | .datePart .. => ⟨_, rfl, recordForm_of_forall₂
      (show ["part", "column", "operator", "value"].Nodup by decide)
      (.cons ⟨rfl, rfl⟩ (.cons ⟨rfl, rfl⟩ (.cons ⟨rfl, rfl⟩ (.cons ⟨rfl, rfl⟩ .nil))))⟩
  | .raw .. => ⟨_, rfl, recordForm_of_forall₂ (show ["sql", "bindings"].Nodup by decide)
      (.cons ⟨rfl, rfl⟩ (.cons ⟨rfl, rfl⟩ .nil))⟩

theorem predicatesForm_predicatesToJson :
    ∀ predicates : List Predicate, predicatesForm predicates (.list (predicatesToJson predicates))
  | [] => rfl
  | p :: rest => ⟨_, _, rfl, p.form_toJson, predicatesForm_predicatesToJson rest⟩

theorem joinsForm_joinsToJson : ∀ joins : List Join, joinsForm joins (.list (joinsToJson joins))
  | [] => rfl
  | ⟨_, _, on⟩ :: rest => ⟨_, _, rfl, recordForm_of_forall₂ (show Join.fields.Nodup by decide)
      (.cons ⟨rfl, rfl⟩ (.cons ⟨rfl, rfl⟩ (.cons ⟨rfl, predicatesForm_predicatesToJson on⟩ .nil))),
      joinsForm_joinsToJson rest⟩

/-- **What is written for a query is a form of it.** -/
theorem Query.form_toJson : ∀ q : Query, q.Form q.toJson
  | ⟨_, _, _, aggregate, joins, wheres, _, havings, _, limit, offset, lock⟩ =>
    recordForm_of_forall₂ (show Query.fields.Nodup by decide)
      (.cons ⟨rfl, rfl⟩ (.cons ⟨rfl, rfl⟩ (.cons ⟨rfl, rfl⟩
        (.cons ⟨rfl, writes_ofOption _ Aggregate.form_toJson aggregate⟩
        (.cons ⟨rfl, joinsForm_joinsToJson joins⟩
        (.cons ⟨rfl, predicatesForm_predicatesToJson wheres⟩ (.cons ⟨rfl, rfl⟩
        (.cons ⟨rfl, predicatesForm_predicatesToJson havings⟩
        (.cons ⟨rfl, listForm_ofList fun i _ => i.form_toJson⟩
        (.cons ⟨rfl, writes_ofOption_self _ _ limit⟩
        (.cons ⟨rfl, writes_ofOption_self _ _ offset⟩
        (.cons ⟨rfl, writes_ofOption_self _ _ lock⟩ .nil))))))))))))

end

/-! ### Forms are read back -/

namespace Condition

variable {style : Style} {j : Json}

theorem compareOfJson?_of_form {column operator : String} {value : Value} (hvalue : value.IsExact)
    (h : compareForm column operator value j) :
    compareOfJson? style j = some (.compare column operator value) := by
  obtain ⟨r, hr, hfields⟩ := contentRecord?_of_form h style
  simp only [List.forall_mem_cons] at hfields
  obtain ⟨hcolumn, hoperator, hread, -⟩ := hfields
  rw [compareOfJson?]
  refine read_eq hr ?_
  refine read_eq (Record.required_eq hcolumn (leaf_text _)) ?_
  refine read_eq (Record.required_eq hoperator (leaf_text _)) ?_
  refine read_eq (Record.required_eq hread (Value.leaf_toJson style hvalue)) ?_
  rfl

theorem oneOfOfJson?_of_form {column : String} {values : List Value} {negated : Bool}
    (hvalues : ∀ v ∈ values, v.IsExact) (h : oneOfForm column values negated j) :
    oneOfOfJson? style j = some (.oneOf column values negated) := by
  obtain ⟨r, hr, hfields⟩ := contentRecord?_of_form h style
  simp only [List.forall_mem_cons] at hfields
  obtain ⟨hcolumn, hread, hnegated, -⟩ := hfields
  rw [oneOfOfJson?]
  refine read_eq hr ?_
  refine read_eq (Record.required_eq hcolumn (leaf_text _)) ?_
  refine read_eq (Record.required_eq hread (Value.leaf_ofList style hvalues)) ?_
  refine read_eq (Record.optional_eq hnegated (leaf_bool _)) ?_
  rfl

theorem isNullOfJson?_of_form {column : String} {negated : Bool}
    (h : isNullForm column negated j) :
    isNullOfJson? style j = some (.isNull column negated) := by
  obtain ⟨r, hr, hfields⟩ := contentRecord?_of_form h style
  simp only [List.forall_mem_cons] at hfields
  obtain ⟨hcolumn, hnegated, -⟩ := hfields
  rw [isNullOfJson?]
  refine read_eq hr ?_
  refine read_eq (Record.required_eq hcolumn (leaf_text _)) ?_
  refine read_eq (Record.optional_eq hnegated (leaf_bool _)) ?_
  rfl

theorem betweenOfJson?_of_form {column : String} {low high : Value} {negated : Bool}
    (hlow : low.IsExact) (hhigh : high.IsExact) (h : betweenForm column low high negated j) :
    betweenOfJson? style j = some (.between column low high negated) := by
  obtain ⟨r, hr, hfields⟩ := contentRecord?_of_form h style
  simp only [List.forall_mem_cons] at hfields
  obtain ⟨hcolumn, hreadLow, hreadHigh, hnegated, -⟩ := hfields
  rw [betweenOfJson?]
  refine read_eq hr ?_
  refine read_eq (Record.required_eq hcolumn (leaf_text _)) ?_
  refine read_eq (Record.required_eq hreadLow (Value.leaf_toJson style hlow)) ?_
  refine read_eq (Record.required_eq hreadHigh (Value.leaf_toJson style hhigh)) ?_
  refine read_eq (Record.optional_eq hnegated (leaf_bool _)) ?_
  rfl

theorem columnsOfJson?_of_form {first operator second : String}
    (h : columnsForm first operator second j) :
    columnsOfJson? style j = some (.columns first operator second) := by
  obtain ⟨r, hr, hfields⟩ := contentRecord?_of_form h style
  simp only [List.forall_mem_cons] at hfields
  obtain ⟨hfirst, hoperator, hsecond, -⟩ := hfields
  rw [columnsOfJson?]
  refine read_eq hr ?_
  refine read_eq (Record.required_eq hfirst (leaf_text _)) ?_
  refine read_eq (Record.required_eq hoperator (leaf_text _)) ?_
  refine read_eq (Record.required_eq hsecond (leaf_text _)) ?_
  rfl

theorem datePartOfJson?_of_form {part : DatePart} {column operator : String} {value : Value}
    (hvalue : value.IsExact) (h : datePartForm part column operator value j) :
    datePartOfJson? style j = some (.datePart part column operator value) := by
  obtain ⟨r, hr, hfields⟩ := contentRecord?_of_form h style
  simp only [List.forall_mem_cons] at hfields
  obtain ⟨hpart, hcolumn, hoperator, hread, -⟩ := hfields
  rw [datePartOfJson?]
  refine read_eq hr ?_
  refine read_eq (Record.required_eq hpart (leaf_of_eq (wordOf?_text style part.lookup_word))) ?_
  refine read_eq (Record.required_eq hcolumn (leaf_text _)) ?_
  refine read_eq (Record.required_eq hoperator (leaf_text _)) ?_
  refine read_eq (Record.required_eq hread (Value.leaf_toJson style hvalue)) ?_
  rfl

theorem rawOfJson?_of_form {sql : String} {bindings : List Value}
    (hbindings : ∀ v ∈ bindings, v.IsExact) (h : rawForm sql bindings j) :
    rawOfJson? style j = some (.raw sql bindings) := by
  obtain ⟨r, hr, hfields⟩ := contentRecord?_of_form h style
  simp only [List.forall_mem_cons] at hfields
  obtain ⟨hsql, hread, -⟩ := hfields
  rw [rawOfJson?]
  refine read_eq hr ?_
  refine read_eq (Record.required_eq hsql (leaf_text _)) ?_
  refine read_eq (Record.optional_eq hread (Value.leaf_ofList style hbindings)) ?_
  rfl

end Condition

mutual

theorem Predicate.ofJson?_of_form (style : Style) :
    ∀ p : Predicate, p.condition.Obeys .exact → ∀ j, p.Form j → Predicate.ofJson? style j = some p
  | ⟨connector, condition⟩, hp, j, h => by
    obtain ⟨r, hr, hfields⟩ := record?_of_form h
    simp only [List.forall_mem_cons] at hfields
    obtain ⟨hconnector, hcondition, -⟩ := hfields
    have hread := condition.ofJson?_of_form style hp
    rw [Predicate.ofJson?]
    refine read_eq hr ?_
    refine read_eq (Record.optional_eq hconnector (leaf_of_eq (wordOf?_text style connector.lookup_keyword))) ?_
    refine read_eq (Record.required_eq hcondition fun part hpart => hread part.val hpart) ?_
    rfl

theorem Condition.ofJson?_of_form (style : Style) :
    ∀ c : Condition, c.Obeys .exact → ∀ j, c.Form j → Condition.ofJson? style j = some c
  | .compare column operator value, hc, j, h => by
    obtain ⟨v, rfl, hv⟩ := h
    rw [Condition.ofJson?]
    exact Condition.compareOfJson?_of_form hc.2 hv
  | .oneOf column values negated, hc, j, h => by
    obtain ⟨v, rfl, hv⟩ := h
    rw [Condition.ofJson?]
    exact Condition.oneOfOfJson?_of_form hc.2 hv
  | .isNull column negated, hc, j, h => by
    obtain ⟨v, rfl, hv⟩ := h
    rw [Condition.ofJson?]
    exact Condition.isNullOfJson?_of_form hv
  | .between column low high negated, hc, j, h => by
    obtain ⟨v, rfl, hv⟩ := h
    rw [Condition.ofJson?]
    exact Condition.betweenOfJson?_of_form hc.2.1 hc.2.2 hv
  | .columns first operator second, hc, j, h => by
    obtain ⟨v, rfl, hv⟩ := h
    rw [Condition.ofJson?]
    exact Condition.columnsOfJson?_of_form hv
  | .group members, hc, j, h => by
    obtain ⟨v, rfl, hv⟩ := h
    have hread := items_of_listForm (predicates_ofJson? style members hc v hv)
    rw [Condition.ofJson?]
    simp only [tagged, alternative?, Option.bind_eq_bind, Option.bind_some, content, hread]
    rfl
  | .subquery query negated, hc, j, h => by
    obtain ⟨v, rfl, hv⟩ := h
    obtain ⟨r, hr, hfields⟩ := contentRecord?_of_form hv style
    simp only [List.forall_mem_cons] at hfields
    obtain ⟨hquery, hnegated, -⟩ := hfields
    have hr : v.contentRecord? style ["query", "negated"] = some r := hr
    have hread := query.ofJson?_of_form style hc
    rw [Condition.ofJson?]
    simp only [tagged, alternative?, Option.bind_eq_bind, Option.bind_some, content, hr,
      Record.required_eq hquery fun part hpart => hread part.val hpart,
      Record.optional_eq hnegated (leaf_bool _)]
    rfl
  | .datePart part column operator value, hc, j, h => by
    obtain ⟨v, rfl, hv⟩ := h
    rw [Condition.ofJson?]
    exact Condition.datePartOfJson?_of_form hc.2 hv
  | .raw sql bindings, hc, j, h => by
    obtain ⟨v, rfl, hv⟩ := h
    rw [Condition.ofJson?]
    exact Condition.rawOfJson?_of_form hc hv

theorem predicates_ofJson? (style : Style) :
    ∀ predicates : List Predicate, predicatesObey .exact predicates → ∀ j,
      predicatesForm predicates j →
        ListForm (fun p item => Predicate.ofJson? style item = some p) predicates j
  | [], _, j, h => ⟨[], h, .nil⟩
  | ⟨connector, condition⟩ :: rest, hp, j, h => by
    obtain ⟨first, more, rfl, hfirst, hmore⟩ := h
    obtain ⟨_, hitems, hrest⟩ := predicates_ofJson? style rest hp.2 _ hmore
    cases hitems
    have hread := Predicate.ofJson?_of_form style ⟨connector, condition⟩ hp.1 first hfirst
    exact ⟨_, rfl, .cons hread hrest⟩

theorem Join.ofJson?_of_form (style : Style) :
    ∀ join : Join, predicatesObey .exact join.on → ∀ j, join.Form j →
      Join.ofJson? style j = some join
  | ⟨kind, table, on⟩, hjoin, j, h => by
    obtain ⟨r, hr, hfields⟩ := record?_of_form h
    simp only [List.forall_mem_cons] at hfields
    obtain ⟨hkind, htable, hon, -⟩ := hfields
    have hread := predicates_ofJson? style on hjoin
    rw [Join.ofJson?]
    refine read_eq hr ?_
    refine read_eq (Record.required_eq hkind (leaf_of_eq (wordOf?_text style kind.lookup_keyword)))
      ?_
    refine read_eq (Record.required_eq htable (leaf_text _)) ?_
    refine read_eq (Record.optional_eq hon fun part hpart => items_of_listForm (hread part.val hpart)) ?_
    rfl

theorem joins_ofJson? (style : Style) :
    ∀ joins : List Join, joinsObey .exact joins → ∀ j, joinsForm joins j →
      ListForm (fun join item => Join.ofJson? style item = some join) joins j
  | [], _, j, h => ⟨[], h, .nil⟩
  | ⟨kind, table, on⟩ :: rest, hjoins, j, h => by
    obtain ⟨first, more, rfl, hfirst, hmore⟩ := h
    obtain ⟨_, hitems, hrest⟩ := joins_ofJson? style rest hjoins.2.2 _ hmore
    cases hitems
    have hread := Join.ofJson?_of_form style ⟨kind, table, on⟩ hjoins.2.1 first hfirst
    exact ⟨_, rfl, .cons hread hrest⟩

/-- **A query is read back from every form.** -/
theorem Query.ofJson?_of_form (style : Style) :
    ∀ q : Query, q.Obeys .exact → ∀ j, q.Form j → Query.ofJson? style j = some q
  | ⟨table, columns, distinct, aggregate, joins, wheres, groupBy, havings, orderBy, limit, offset,
      lock⟩, hq, j, h => by
    obtain ⟨-, -, -, hjoinsObey, hwheresObey, -, hhavingsObey, -, -⟩ := hq
    obtain ⟨r, hr, hfields⟩ := record?_of_form h
    simp only [List.forall_mem_cons] at hfields
    obtain ⟨htable, hcolumns, hdistinct, haggregate, hjoins, hwheres, hgroupBy, hhavings, horderBy,
      hlimit, hoffset, hlock, -⟩ := hfields
    have hreadAggregate : r.nullable "aggregate" (leaf Aggregate.ofJson?) = some aggregate :=
      Record.nullable_eq haggregate (fun _ hnull => by obtain ⟨_, h, -⟩ := hnull; cases h)
        fun _ _ _ ha => Aggregate.ofJson?_of_form ha
    have hreadJoins := joins_ofJson? style joins hjoinsObey
    have hreadWheres := predicates_ofJson? style wheres hwheresObey
    have hreadHavings := predicates_ofJson? style havings hhavingsObey
    have hreadSort : ∀ i ∈ orderBy, ∀ j, i.Form j → SortItem.ofJson? style j = some i :=
      fun _ _ _ => SortItem.ofJson?_of_form style
    rw [Query.ofJson?]
    refine read_eq hr ?_
    refine read_eq (Record.required_eq htable (leaf_text _)) ?_
    refine read_eq (Record.optional_eq hcolumns (leaf_of_eq (listOf?_ofList fun i _ => i.ofJson?_toJson))) ?_
    refine read_eq (Record.optional_eq hdistinct (leaf_bool _)) ?_
    refine read_eq hreadAggregate ?_
    refine read_eq (Record.optional_eq hjoins fun part hpart => items_of_listForm (hreadJoins part.val hpart)) ?_
    refine read_eq (Record.optional_eq hwheres fun part hpart => items_of_listForm (hreadWheres part.val hpart)) ?_
    refine read_eq (Record.optional_eq hgroupBy (leaf_texts _)) ?_
    refine read_eq (Record.optional_eq hhavings fun part hpart => items_of_listForm (hreadHavings part.val hpart)) ?_
    refine read_eq (Record.optional_eq horderBy (leaf_of_forms hreadSort)) ?_
    refine read_eq (Record.nullable_uint64_eq hlimit) ?_
    refine read_eq (Record.nullable_uint64_eq hoffset) ?_
    refine read_eq (Record.nullable_of_eq hlock Lock.toJson_ne_null fun l _ =>
      l.ofJson?_toJson style) ?_
    rfl

end

end OracleSql
