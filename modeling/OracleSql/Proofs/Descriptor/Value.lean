import OracleSql.Descriptor.Value
import OracleSql.Proofs.Descriptor.Record
import OracleSql.Proofs.Text.Calendar

/-!
# Forms of values and calls

A value is written in one way only: it has no fields.  What is read back is every value but a
floating-point number, whose text is not a number any more when it is not finite.  A call has
forms, and so have the binds in it.
-/

namespace OracleSql

open Json

/-- The value is no floating-point number. -/
def Value.IsExact : Value → Prop
  | .float _ => False
  | _ => True

theorem Value.ofJson?_toJson (style : Style) {v : Value} (h : v.IsExact) :
    Value.ofJson? style v.toJson = some v := by
  cases v with
  | null => rfl
  | bool b => rfl
  | int n =>
    simp only [ofJson?, toJson, tagged, alternative?, Option.bind_eq_bind, Option.bind_some, content,
      int64?_int]
    rfl
  | float x => exact h.elim
  | text s => rfl
  | bytes content =>
    have hbytes : (bytesJson content).listOf? byte? = some content :=
      listOf?_ofList fun b _ => byte?_int b
    simp only [ofJson?, toJson, tagged, alternative?, Option.bind_eq_bind, Option.bind_some,
      Json.content, hbytes]
    rfl
  | date d =>
    simp only [ofJson?, toJson, tagged, alternative?, Option.bind_eq_bind, Option.bind_some, content,
      text?, Date.ofText?_text]
    rfl
  | timestamp t =>
    simp only [ofJson?, toJson, tagged, alternative?, Option.bind_eq_bind, Option.bind_some, content,
      text?, Timestamp.ofText?_text]
    rfl
  | raw sql => rfl

theorem Value.leaf_toJson {j : Json} (style : Style) {v : Value} (h : v.IsExact) :
    ∀ part : Part j, part.val = v.toJson → leaf (Value.ofJson? style) part = some v :=
  leaf_of_eq (ofJson?_toJson style h)

theorem Value.leaf_ofList {j : Json} (style : Style) {values : List Value}
    (h : ∀ v ∈ values, v.IsExact) : ∀ part : Part j, part.val = ofList Value.toJson values →
      leaf (listOf? (Value.ofJson? style)) part = some values :=
  leaf_of_eq (listOf?_ofList fun v hv => ofJson?_toJson style (h v hv))

/-! ### Calls -/

def OutBinding.Form (b : OutBinding) : Json → Prop :=
  RecordForm [.required "name" (· = .text b.name), .required "kind" (· = b.kind.toJson),
    .nullable "max_length" (fun n j => j = ofUInt64 n) b.maxLength]

theorem OutBinding.form_toJson (b : OutBinding) : b.Form b.toJson := by
  refine recordForm_of_forall₂ (show fields.Nodup by decide) ?_
  exact .cons ⟨rfl, rfl⟩ (.cons ⟨rfl, rfl⟩
    (.cons ⟨rfl, writes_ofOption_self _ _ b.maxLength⟩ .nil))

theorem OutKind.ofJson?_toJson (k : OutKind) : OutKind.ofJson? k.toJson = some k :=
  wordOf?_text .strict (by cases k <;> rfl)

theorem OutBinding.ofJson?_of_form {b : OutBinding} {j : Json} (h : b.Form j) :
    OutBinding.ofJson? j = some b := by
  obtain ⟨r, hr, hfields⟩ := record?_of_form h
  simp only [List.forall_mem_cons] at hfields
  obtain ⟨hname, hkind, hlength, -⟩ := hfields
  have hlist : guard (j.list?.all fun items => items.length = fields.length) = some () := by
    obtain ⟨members, rfl, -⟩ := h
    rfl
  rw [ofJson?]
  refine read_eq hr ?_
  refine read_eq hlist ?_
  refine read_eq (Record.required_eq hname (leaf_text _)) ?_
  refine read_eq (Record.required_eq hkind (leaf_of_eq (OutKind.ofJson?_toJson _))) ?_
  refine read_eq (Record.nullable_uint64_eq hlength) ?_
  rfl

def ProcedureParam.Form : ProcedureParam → Json → Prop
  | input value => (· = tagged "In" value.toJson)
  | output binding => TaggedForm "Out" binding.Form

def ProcedureParam.IsExact : ProcedureParam → Prop
  | input value => value.IsExact
  | output _ => True

theorem ProcedureParam.form_toJson (p : ProcedureParam) : p.Form p.toJson := by
  cases p with
  | input value => rfl
  | output binding => exact ⟨_, rfl, binding.form_toJson⟩

theorem ProcedureParam.ofJson?_of_form {p : ProcedureParam} (hp : p.IsExact) {j : Json}
    (h : p.Form j) : ProcedureParam.ofJson? j = some p := by
  cases p with
  | input value =>
    obtain rfl : j = tagged "In" value.toJson := h
    have hvalue := Value.ofJson?_toJson .strict hp
    simp only [ofJson?, tagged, alternative?, Option.bind_eq_bind, Option.bind_some, content, hvalue]
    rfl
  | output binding =>
    obtain ⟨v, rfl, hv⟩ := h
    have hbinding := OutBinding.ofJson?_of_form hv
    simp only [ofJson?, tagged, alternative?, Option.bind_eq_bind, Option.bind_some, content,
      hbinding]
    rfl

def ProcedureCall.Form (c : ProcedureCall) : Json → Prop :=
  RecordForm [.required "name" (· = .text c.name),
    .optional "params" (c.params = [])
      (ListForm (PairForm (fun s j => j = .text s) ProcedureParam.Form) c.params)]

theorem ProcedureCall.form_toJson (c : ProcedureCall) : c.Form c.toJson := by
  refine recordForm_of_forall₂ (show fields.Nodup by decide) ?_
  refine .cons ⟨rfl, rfl⟩ (.cons ⟨rfl, ?_⟩ .nil)
  exact listForm_ofList fun p _ => ⟨_, _, rfl, rfl, p.2.form_toJson⟩

def ProcedureCall.IsExact (c : ProcedureCall) : Prop :=
  ∀ p ∈ c.params, p.2.IsExact

theorem ProcedureCall.ofJson?_of_form {c : ProcedureCall} (hc : c.IsExact)
    {j : Json} (h : c.Form j) : ProcedureCall.ofJson? j = some c := by
  obtain ⟨r, hr, hfields⟩ := record?_of_form h
  simp only [List.forall_mem_cons] at hfields
  obtain ⟨hname, hparams, -⟩ := hfields
  have hread : ∀ p ∈ c.params, ∀ j, PairForm (fun s j => j = .text s) ProcedureParam.Form p j →
      pairOf? text? ProcedureParam.ofJson? j = some p := by
    intro p hp j hj
    exact pairOf?_of_form (by rintro _ rfl; rfl)
      (fun _ => ProcedureParam.ofJson?_of_form (hc p hp)) hj
  rw [ofJson?]
  refine read_eq hr ?_
  refine read_eq (Record.required_eq hname (leaf_text _)) ?_
  refine read_eq (Record.optional_eq hparams (leaf_of_forms hread)) ?_
  rfl

end OracleSql
