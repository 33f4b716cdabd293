import OracleSql.Descriptor.Schema
import OracleSql.Proofs.Descriptor.Record

/-!
# Forms of blueprints and sequences

A blueprint contains columns and commands, and some commands contain an index or a foreign key.
All of them are records with fields that may be missing.  The only part of a blueprint that may be
a floating-point number is the default of a column.
-/

namespace OracleSql

open Json

/-! ### Columns -/

theorem ColumnType.ofJson?_toJson (style : Style) (t : ColumnType) :
    ColumnType.ofJson? style t.toJson = some t :=
  wordOf?_text style (by cases t <;> rfl)

/-- The default is no floating-point number. -/
def DefaultValue.IsExact : DefaultValue → Prop
  | .float _ => False
  | _ => True

theorem DefaultValue.ofJson?_toJson {d : DefaultValue} (h : d.IsExact) :
    DefaultValue.ofJson? d.toJson = some d := by
  cases d with
  | raw sql => rfl
  | bool b => rfl
  | int n =>
    simp only [ofJson?, toJson, tagged, alternative?, Option.bind_eq_bind, Option.bind_some, content,
      int64?_int]
    rfl
  | float x => exact h.elim
  | text s => rfl

theorem DefaultValue.toJson_ne_null (d : DefaultValue) : d.toJson ≠ .null := by
  cases d <;> nofun

def Column.IsExact (c : Column) : Prop :=
  ∀ d ∈ c.default, d.IsExact

def Column.Form (c : Column) : Json → Prop :=
  RecordForm [.required "name" (· = .text c.name), .required "column_type" (· = c.type.toJson),
    .nullable "length" (fun n j => j = ofUInt32 n) c.length,
    .nullable "precision" (fun n j => j = ofUInt32 n) c.precision,
    .nullable "places" (fun n j => j = ofUInt32 n) c.places,
    .optional "nullable" (c.nullable = false) (· = .bool c.nullable),
    .nullable "default" (fun d j => j = DefaultValue.toJson d) c.default,
    .optional "auto_increment" (c.autoIncrement = false) (· = .bool c.autoIncrement),
    .nullable "comment" (fun s j => j = .text s) c.comment,
    .optional "allowed" (c.allowed = []) (· = ofList .text c.allowed),
    .nullable "start_value" (fun n j => j = ofUInt64 n) c.startValue,
    .optional "nocache" (c.nocache = false) (· = .bool c.nocache),
    .optional "change" (c.change = false) (· = .bool c.change),
    .optional "primary" (c.primary = false) (· = .bool c.primary),
    .optional "unique" (c.unique = false) (· = .bool c.unique),
    .optional "index" (c.index = false) (· = .bool c.index)]

theorem Column.form_toJson (c : Column) : c.Form c.toJson :=
  recordForm_of_forall₂ (show fields.Nodup by decide)
    (.cons ⟨rfl, rfl⟩ (.cons ⟨rfl, rfl⟩ (.cons ⟨rfl, writes_ofOption_self _ _ c.length⟩
      (.cons ⟨rfl, writes_ofOption_self _ _ c.precision⟩
      (.cons ⟨rfl, writes_ofOption_self _ _ c.places⟩ (.cons ⟨rfl, rfl⟩
      (.cons ⟨rfl, writes_ofOption_self _ _ c.default⟩ (.cons ⟨rfl, rfl⟩
      (.cons ⟨rfl, writes_ofOption_self _ _ c.comment⟩ (.cons ⟨rfl, rfl⟩
      (.cons ⟨rfl, writes_ofOption_self _ _ c.startValue⟩ (.cons ⟨rfl, rfl⟩ (.cons ⟨rfl, rfl⟩
      (.cons ⟨rfl, rfl⟩ (.cons ⟨rfl, rfl⟩ (.cons ⟨rfl, rfl⟩ .nil))))))))))))))))

theorem Column.ofJson?_of_form (style : Style) {c : Column} (hc : c.IsExact) {j : Json}
    (h : c.Form j) : Column.ofJson? style j = some c := by
  obtain ⟨r, hr, hfields⟩ := record?_of_form h
  simp only [List.forall_mem_cons] at hfields
  obtain ⟨hname, htype, hlength, hprecision, hplaces, hnullable, hdefault, hauto, hcomment, hallowed,
    hstart, hnocache, hchange, hprimary, hunique, hindex, -⟩ := hfields
  have hreadDefault : r.nullable "default" (leaf DefaultValue.ofJson?) = some c.default :=
    Record.nullable_of_eq hdefault DefaultValue.toJson_ne_null fun d hd =>
      DefaultValue.ofJson?_toJson (hc d hd)
  rw [ofJson?]
  refine read_eq hr ?_
  refine read_eq (Record.required_eq hname (leaf_text _)) ?_
  refine read_eq (Record.required_eq htype (leaf_of_eq (ColumnType.ofJson?_toJson style _))) ?_
  refine read_eq (Record.nullable_uint32_eq hlength) ?_
  refine read_eq (Record.nullable_uint32_eq hprecision) ?_
  refine read_eq (Record.nullable_uint32_eq hplaces) ?_
  refine read_eq (Record.optional_eq hnullable (leaf_bool _)) ?_
  refine read_eq hreadDefault ?_
  refine read_eq (Record.optional_eq hauto (leaf_bool _)) ?_
  refine read_eq (Record.nullable_text_eq hcomment) ?_
  refine read_eq (Record.optional_eq hallowed (leaf_texts _)) ?_
  refine read_eq (Record.nullable_uint64_eq hstart) ?_
  refine read_eq (Record.optional_eq hnocache (leaf_bool _)) ?_
  refine read_eq (Record.optional_eq hchange (leaf_bool _)) ?_
  refine read_eq (Record.optional_eq hprimary (leaf_bool _)) ?_
  refine read_eq (Record.optional_eq hunique (leaf_bool _)) ?_
  refine read_eq (Record.optional_eq hindex (leaf_bool _)) ?_
  rfl

/-! ### Commands -/

def IndexSpec.Form (s : IndexSpec) : Json → Prop :=
  RecordForm [.nullable "index" (fun s j => j = .text s) s.name,
    .optional "columns" (s.columns = []) (· = ofList .text s.columns)]

theorem IndexSpec.form_toJson (s : IndexSpec) : s.Form s.toJson :=
  recordForm_of_forall₂ (show fields.Nodup by decide)
    (.cons ⟨rfl, writes_ofOption_self _ _ s.name⟩ (.cons ⟨rfl, rfl⟩ .nil))

theorem IndexSpec.ofJson?_of_form {s : IndexSpec} {j : Json} (h : s.Form j) :
    IndexSpec.ofJson? j = some s := by
  obtain ⟨r, hr, hfields⟩ := record?_of_form h
  simp only [List.forall_mem_cons] at hfields
  obtain ⟨hname, hcolumns, -⟩ := hfields
  rw [ofJson?]
  refine read_eq hr ?_
  refine read_eq (Record.nullable_text_eq hname) ?_
  refine read_eq (Record.optional_eq hcolumns (leaf_texts _)) ?_
  rfl

def ForeignKey.Form (f : ForeignKey) : Json → Prop :=
  RecordForm [.nullable "index" (fun s j => j = .text s) f.name,
    .required "columns" (· = ofList .text f.columns), .required "on" (· = .text f.on),
    .required "references" (· = ofList .text f.references),
    .nullable "on_delete" (fun s j => j = .text s) f.onDelete]

theorem ForeignKey.form_toJson (f : ForeignKey) : f.Form f.toJson :=
  recordForm_of_forall₂ (show fields.Nodup by decide)
    (.cons ⟨rfl, writes_ofOption_self _ _ f.name⟩ (.cons ⟨rfl, rfl⟩ (.cons ⟨rfl, rfl⟩
      (.cons ⟨rfl, rfl⟩ (.cons ⟨rfl, writes_ofOption_self _ _ f.onDelete⟩ .nil)))))

theorem ForeignKey.ofJson?_of_form {f : ForeignKey} {j : Json} (h : f.Form j) :
    ForeignKey.ofJson? j = some f := by
  obtain ⟨r, hr, hfields⟩ := record?_of_form h
  simp only [List.forall_mem_cons] at hfields
  obtain ⟨hname, hcolumns, hon, hreferences, hdelete, -⟩ := hfields
  rw [ofJson?]
  refine read_eq hr ?_
  refine read_eq (Record.nullable_text_eq hname) ?_
  refine read_eq (Record.required_eq hcolumns (leaf_texts _)) ?_
  refine read_eq (Record.required_eq hon (leaf_text _)) ?_
  refine read_eq (Record.required_eq hreferences (leaf_texts _)) ?_
  refine read_eq (Record.nullable_text_eq hdelete) ?_
  rfl

namespace SchemaCommand

def renameForm (name : String) : Json → Prop :=
  RecordForm [.required "to" (· = .text name)]

def renameColumnForm (old new : String) : Json → Prop :=
  RecordForm [.required "from" (· = .text old), .required "to" (· = .text new)]

def Form : SchemaCommand → Json → Prop
  | create => (· = .text "Create")
  | add => (· = .text "Add")
  | change => (· = .text "Change")
  | drop => (· = .text "Drop")
  | dropIfExists => (· = .text "DropIfExists")
  | dropColumns columns => (· = tagged "DropColumn" (ofList .text columns))
  | rename name => TaggedForm "Rename" (renameForm name)
  | renameColumn old new => TaggedForm "RenameColumn" (renameColumnForm old new)
  | primary spec => TaggedForm "Primary" spec.Form
  | unique spec => TaggedForm "Unique" spec.Form
  | index spec => TaggedForm "Index" spec.Form
  | fulltext spec => TaggedForm "Fulltext" spec.Form
  | foreign key => TaggedForm "Foreign" key.Form
  | dropPrimary spec => TaggedForm "DropPrimary" spec.Form
  | dropUnique spec => TaggedForm "DropUnique" spec.Form
  | dropIndex spec => TaggedForm "DropIndex" spec.Form
  | dropForeign spec => TaggedForm "DropForeign" spec.Form
  | dropFulltext spec => TaggedForm "DropFullText" spec.Form

theorem form_toJson (c : SchemaCommand) : c.Form c.toJson := by
  cases c with
  | create | add | change | drop | dropIfExists | dropColumns => rfl
  | rename name =>
    exact ⟨_, rfl, recordForm_of_forall₂ (show ["to"].Nodup by decide) (.cons ⟨rfl, rfl⟩ .nil)⟩
  | renameColumn old new =>
    exact ⟨_, rfl, recordForm_of_forall₂ (show ["from", "to"].Nodup by decide)
      (.cons ⟨rfl, rfl⟩ (.cons ⟨rfl, rfl⟩ .nil))⟩
  | foreign key => exact ⟨_, rfl, key.form_toJson⟩
  | primary spec | unique spec | index spec | fulltext spec | dropPrimary spec | dropUnique spec
  | dropIndex spec | dropForeign spec | dropFulltext spec => exact ⟨_, rfl, spec.form_toJson⟩

theorem renameOfJson?_of_form (style : Style) {name : String} {j : Json}
    (h : renameForm name j) :
    renameOfJson? style j = some (.rename name) := by
  obtain ⟨r, hr, hfields⟩ := contentRecord?_of_form h style
  simp only [List.forall_mem_cons] at hfields
  rw [renameOfJson?]
  refine read_eq hr ?_
  refine read_eq (Record.required_eq hfields.1 (leaf_text _)) ?_
  rfl

theorem renameColumnOfJson?_of_form (style : Style) {old new : String} {j : Json}
    (h : renameColumnForm old new j) :
    renameColumnOfJson? style j = some (.renameColumn old new) := by
  obtain ⟨r, hr, hfields⟩ := contentRecord?_of_form h style
  simp only [List.forall_mem_cons] at hfields
  obtain ⟨hold, hnew, -⟩ := hfields
  rw [renameColumnOfJson?]
  refine read_eq hr ?_
  refine read_eq (Record.required_eq hold (leaf_text _)) ?_
  refine read_eq (Record.required_eq hnew (leaf_text _)) ?_
  rfl

theorem ofJson?_of_form (style : Style) {c : SchemaCommand} {j : Json} (h : c.Form j) :
    ofJson? style j = some c := by
  cases c with
  | create | add | change | drop | dropIfExists =>
    cases h
    rfl
  | dropColumns columns =>
    cases h
    have hread : (ofList .text columns).listOf? text? = some columns := listOf?_ofList fun _ _ => rfl
    simp only [ofJson?, tagged, alternative?, Option.bind_eq_bind, Option.bind_some, content, hread,
      Option.map_some]
  | rename name =>
    obtain ⟨v, rfl, hv⟩ := h
    have hread := renameOfJson?_of_form style hv
    simp only [ofJson?, tagged, alternative?, Option.bind_eq_bind, Option.bind_some, content, leaf,
      hread]
  | renameColumn old new =>
    obtain ⟨v, rfl, hv⟩ := h
    have hread := renameColumnOfJson?_of_form style hv
    simp only [ofJson?, tagged, alternative?, Option.bind_eq_bind, Option.bind_some, content, leaf,
      hread]
  | foreign key =>
    obtain ⟨v, rfl, hv⟩ := h
    have hread := ForeignKey.ofJson?_of_form hv
    simp only [ofJson?, tagged, alternative?, Option.bind_eq_bind, Option.bind_some, content, hread,
      Option.map_some]
  | primary spec | unique spec | index spec | fulltext spec | dropPrimary spec | dropUnique spec
  | dropIndex spec | dropForeign spec | dropFulltext spec =>
    obtain ⟨v, rfl, hv⟩ := h
    have hread := IndexSpec.ofJson?_of_form hv
    simp only [ofJson?, tagged, alternative?, Option.bind_eq_bind, Option.bind_some, content, hread,
      Option.map_some]

end SchemaCommand

/-! ### Blueprints -/

def Blueprint.IsExact (b : Blueprint) : Prop :=
  ∀ c ∈ b.columns, c.IsExact

def Blueprint.Form (b : Blueprint) : Json → Prop :=
  RecordForm [.required "name" (· = .text b.name),
    .optional "columns" (b.columns = []) (ListForm Column.Form b.columns),
    .optional "commands" (b.commands = []) (ListForm SchemaCommand.Form b.commands),
    .nullable "comment" (fun s j => j = .text s) b.comment,
    .optional "column_comments" (b.columnComments = [])
      (· = ofList (fun p => ofPair (.text p.1) (.text p.2)) b.columnComments)]

theorem Blueprint.form_toJson (b : Blueprint) : b.Form b.toJson :=
  recordForm_of_forall₂ (show fields.Nodup by decide)
    (.cons ⟨rfl, rfl⟩ (.cons ⟨rfl, listForm_ofList fun c _ => c.form_toJson⟩
      (.cons ⟨rfl, listForm_ofList fun c _ => c.form_toJson⟩
      (.cons ⟨rfl, writes_ofOption_self _ _ b.comment⟩ (.cons ⟨rfl, rfl⟩ .nil)))))

theorem Blueprint.ofJson?_of_form (style : Style) {b : Blueprint} (hb : b.IsExact) {j : Json}
    (h : b.Form j) : Blueprint.ofJson? style j = some b := by
  obtain ⟨r, hr, hfields⟩ := record?_of_form h
  simp only [List.forall_mem_cons] at hfields
  obtain ⟨hname, hcolumns, hcommands, hcomment, hcomments, -⟩ := hfields
  have hreadColumn : ∀ c ∈ b.columns, ∀ j, c.Form j → Column.ofJson? style j = some c :=
    fun c hc _ => Column.ofJson?_of_form style (hb c hc)
  have hreadCommand : ∀ c ∈ b.commands, ∀ j, c.Form j → SchemaCommand.ofJson? style j = some c :=
    fun _ _ _ => SchemaCommand.ofJson?_of_form style
  have hreadComments : (ofList (fun p => ofPair (.text p.1) (.text p.2)) b.columnComments).listOf?
      (pairOf? text? text?) = some b.columnComments :=
    listOf?_ofList fun _ _ => pairOf?_ofPair rfl rfl
  rw [ofJson?]
  refine read_eq hr ?_
  refine read_eq (Record.required_eq hname (leaf_text _)) ?_
  refine read_eq (Record.optional_eq hcolumns (leaf_of_forms hreadColumn)) ?_
  refine read_eq (Record.optional_eq hcommands (leaf_of_forms hreadCommand)) ?_
  refine read_eq (Record.nullable_text_eq hcomment) ?_
  refine read_eq (Record.optional_eq hcomments (leaf_of_eq hreadComments)) ?_
  rfl

/-! ### Sequences -/

def SequenceSpec.Form (s : SequenceSpec) : Json → Prop :=
  RecordForm [.required "name" (· = .text s.name),
    .required "start_value" (· = ofUInt64 s.startValue),
    .required "min_value" (· = ofUInt64 s.minValue),
    .nullable "max_value" (fun n j => j = ofUInt64 n) s.maxValue,
    .required "increment_by" (· = ofUInt64 s.incrementBy),
    .optional "nocache" (s.nocache = false) (· = .bool s.nocache)]

theorem SequenceSpec.form_toJson (s : SequenceSpec) : s.Form s.toJson :=
  recordForm_of_forall₂ (show fields.Nodup by decide)
    (.cons ⟨rfl, rfl⟩ (.cons ⟨rfl, rfl⟩ (.cons ⟨rfl, rfl⟩
      (.cons ⟨rfl, writes_ofOption_self _ _ s.maxValue⟩ (.cons ⟨rfl, rfl⟩
      (.cons ⟨rfl, rfl⟩ .nil))))))

theorem SequenceSpec.ofJson?_of_form {s : SequenceSpec} {j : Json} (h : s.Form j) :
    SequenceSpec.ofJson? j = some s := by
  obtain ⟨r, hr, hfields⟩ := record?_of_form h
  simp only [List.forall_mem_cons] at hfields
  obtain ⟨hname, hstart, hmin, hmax, hincrement, hnocache, -⟩ := hfields
  rw [ofJson?]
  refine read_eq hr ?_
  refine read_eq (Record.required_eq hname (leaf_text _)) ?_
  refine read_eq (Record.required_eq hstart (leaf_of_eq (uint64?_ofUInt64 _))) ?_
  refine read_eq (Record.required_eq hmin (leaf_of_eq (uint64?_ofUInt64 _))) ?_
  refine read_eq (Record.nullable_uint64_eq hmax) ?_
  refine read_eq (Record.required_eq hincrement (leaf_of_eq (uint64?_ofUInt64 _))) ?_
  refine read_eq (Record.optional_eq hnocache (leaf_bool _)) ?_
  rfl

end OracleSql
