import OracleSql.Descriptor.Write
import OracleSql.Proofs.Descriptor.Query
import OracleSql.Proofs.Write.Rules

/-!
# Forms of inserts, updates and deletes

Rows, assignments and binary columns are lists of pairs, which have no fields and are written in
one way only.  The conditions and joins of an update or a delete have the forms that they have in
a query.
-/

namespace OracleSql

open Json

/-! ### Columns with their values -/

theorem rowOfJson?_rowToJson (style : Style) {row : RowValues} (h : ∀ p ∈ row, p.2.IsExact) :
    rowOfJson? style (rowToJson row) = some row :=
  listOf?_ofList fun p hp => pairOf?_ofPair rfl (Value.ofJson?_toJson style (h p hp))

theorem binaryOfJson?_binaryToJson (columns : BinaryColumns) :
    binaryOfJson? (binaryToJson columns) = some columns :=
  listOf?_ofList fun _ _ => pairOf?_ofPair rfl (listOf?_ofList fun b _ => byte?_int b)

/-! ### Inserts -/

def Insert.Form (i : Insert) : Json → Prop :=
  RecordForm [.required "table" (· = .text i.table),
    .required "rows" (· = ofList rowToJson i.rows),
    .optional "binary_columns" (i.binaryColumns = []) (· = binaryToJson i.binaryColumns),
    .nullable "sequence_column" (fun s j => j = .text s) i.keyColumn?,
    .optional "uses_sequence" (i.usesSequence = false) (· = .bool i.usesSequence),
    .nullable "sequence_name" (fun s j => j = .text s) i.sequenceName]

theorem Insert.form_toJson (i : Insert) : i.Form i.toJson :=
  recordForm_of_forall₂ (show fields.Nodup by decide)
    (.cons ⟨rfl, rfl⟩ (.cons ⟨rfl, rfl⟩ (.cons ⟨rfl, rfl⟩
      (.cons ⟨rfl, writes_ofOption_self _ _ i.keyColumn?⟩ (.cons ⟨rfl, rfl⟩
      (.cons ⟨rfl, writes_ofOption_self _ _ i.sequenceName⟩ .nil))))))

theorem Insert.ofJson?_of_form (style : Style) {i : Insert} (hi : i.Obeys .exact) {j : Json}
    (h : i.Form j) : Insert.ofJson? style j = some i := by
  obtain ⟨r, hr, hfields⟩ := record?_of_form h
  simp only [List.forall_mem_cons] at hfields
  obtain ⟨htable, hrows, hbinary, hkey, huses, hsequence, -⟩ := hfields
  have hreadRows : (ofList rowToJson i.rows).listOf? (rowOfJson? style) = some i.rows :=
    listOf?_ofList fun row hrow => rowOfJson?_rowToJson style (hi.values row hrow)
  rw [ofJson?]
  refine read_eq hr ?_
  refine read_eq (Record.required_eq htable (leaf_text _)) ?_
  refine read_eq (Record.required_eq hrows (leaf_of_eq hreadRows)) ?_
  refine read_eq (Record.optional_eq hbinary (leaf_of_eq (binaryOfJson?_binaryToJson _))) ?_
  refine read_eq (Record.nullable_text_eq hkey) ?_
  refine read_eq (Record.optional_eq huses (leaf_bool _)) ?_
  refine read_eq (Record.nullable_text_eq hsequence) ?_
  rfl

/-! ### Updates -/

def Update.Form (u : Update) : Json → Prop :=
  RecordForm [.required "table" (· = .text u.table),
    .required "assignments" (· = rowToJson u.assignments),
    .optional "joins" (u.joins = []) (joinsForm u.joins),
    .optional "wheres" (u.wheres = []) (predicatesForm u.wheres),
    .optional "binary_columns" (u.binaryColumns = []) (· = binaryToJson u.binaryColumns),
    .nullable "sequence_column" (fun s j => j = .text s) u.keyColumn?]

theorem Update.form_toJson (u : Update) : u.Form u.toJson :=
  recordForm_of_forall₂ (show fields.Nodup by decide)
    (.cons ⟨rfl, rfl⟩ (.cons ⟨rfl, rfl⟩ (.cons ⟨rfl, joinsForm_joinsToJson u.joins⟩
      (.cons ⟨rfl, predicatesForm_predicatesToJson u.wheres⟩ (.cons ⟨rfl, rfl⟩
      (.cons ⟨rfl, writes_ofOption_self _ _ u.keyColumn?⟩ .nil))))))

theorem Update.ofJson?_of_form (style : Style) {u : Update} (hu : u.Obeys .exact) {j : Json}
    (h : u.Form j) : Update.ofJson? style j = some u := by
  obtain ⟨r, hr, hfields⟩ := record?_of_form h
  simp only [List.forall_mem_cons] at hfields
  obtain ⟨htable, hassignments, hjoins, hwheres, hbinary, hkey, -⟩ := hfields
  have hreadJoins := joins_ofJson? style u.joins hu.joins
  have hreadWheres := predicates_ofJson? style u.wheres hu.wheres
  rw [ofJson?]
  refine read_eq hr ?_
  refine read_eq (Record.required_eq htable (leaf_text _)) ?_
  refine read_eq (Record.required_eq hassignments (leaf_of_eq (rowOfJson?_rowToJson style hu.values))) ?_
  refine read_eq (Record.optional_eq hjoins fun part hpart => leaf_of_listForm (hreadJoins part.val hpart)) ?_
  refine read_eq (Record.optional_eq hwheres fun part hpart => leaf_of_listForm (hreadWheres part.val hpart)) ?_
  refine read_eq (Record.optional_eq hbinary (leaf_of_eq (binaryOfJson?_binaryToJson _))) ?_
  refine read_eq (Record.nullable_text_eq hkey) ?_
  rfl

/-! ### Deletes -/

def Delete.Form (d : Delete) : Json → Prop :=
  RecordForm [.required "table" (· = .text d.table),
    .optional "wheres" (d.wheres = []) (predicatesForm d.wheres)]

theorem Delete.form_toJson (d : Delete) : d.Form d.toJson :=
  recordForm_of_forall₂ (show fields.Nodup by decide)
    (.cons ⟨rfl, rfl⟩ (.cons ⟨rfl, predicatesForm_predicatesToJson d.wheres⟩ .nil))

theorem Delete.ofJson?_of_form (style : Style) {d : Delete} (hd : d.Obeys .exact) {j : Json}
    (h : d.Form j) : Delete.ofJson? style j = some d := by
  obtain ⟨r, hr, hfields⟩ := record?_of_form h
  simp only [List.forall_mem_cons] at hfields
  obtain ⟨htable, hwheres, -⟩ := hfields
  have hreadWheres := predicates_ofJson? style d.wheres hd.wheres
  rw [ofJson?]
  refine read_eq hr ?_
  refine read_eq (Record.required_eq htable (leaf_text _)) ?_
  refine read_eq (Record.optional_eq hwheres fun part hpart => leaf_of_listForm (hreadWheres part.val hpart)) ?_
  rfl

end OracleSql
