import OracleSql.Proofs.Descriptor.Config
import OracleSql.Proofs.Descriptor.Schema
import OracleSql.Proofs.Descriptor.Write

/-!
# Reading back what is written

Everything that can be described in JSON is read back from what is written for it, and from what
is left of that when fields that may be missing are left out and members of other names are put
in, in the record itself and in every record inside it (`descriptions_read_back`).  Only
floating-point numbers are excepted.

The modules before this one give each kind of description its forms, and the two halves meet at
them: what is written is a form, and every form is read back.
-/

namespace OracleSql

open Json

/-- What is written is a form, and is read back as every form is. -/
structure ReadsBack {α : Type} (form : α → Json → Prop) (write : α → Json)
    (read : Json → Option α) (a : α) : Prop where
  form_write : form a (write a)
  read_form : ∀ j, form a j → read j = some a
  read_write : read (write a) = some a := read_form _ form_write

/-- **Descriptions are read back from all their forms**, and a form of a record stays one when a
field that may be missing is left out or a member of another name is put in. -/
theorem descriptions_read_back (style : Style) :
    (∀ fields members name, RecordForm fields (.object members) →
      (∀ f ∈ fields, f.name = name → f.mayMiss) →
        RecordForm fields (.object (members.filter fun m => m.1 ≠ name))) ∧
    (∀ fields before after name v, RecordForm fields (.object (before ++ after)) →
      (∀ f ∈ fields, f.name ≠ name) →
        RecordForm fields (.object (before ++ (name, v) :: after))) ∧
    (∀ q : Query, q.Obeys .exact → ReadsBack Query.Form Query.toJson (Query.ofJson? style) q) ∧
    (∀ i : Insert, i.Obeys .exact →
      ReadsBack Insert.Form Insert.toJson (Insert.ofJson? style) i) ∧
    (∀ u : Update, u.Obeys .exact →
      ReadsBack Update.Form Update.toJson (Update.ofJson? style) u) ∧
    (∀ d : Delete, d.Obeys .exact →
      ReadsBack Delete.Form Delete.toJson (Delete.ofJson? style) d) ∧
    (∀ b : Blueprint, b.IsExact →
      ReadsBack Blueprint.Form Blueprint.toJson (Blueprint.ofJson? style) b) ∧
    (∀ c : ProcedureCall, c.IsExact →
      ReadsBack ProcedureCall.Form ProcedureCall.toJson ProcedureCall.ofJson? c) ∧
    (∀ s, ReadsBack SequenceSpec.Form SequenceSpec.toJson SequenceSpec.ofJson? s) ∧
    ∀ c, ReadsBack Config.Form Config.toJson Config.ofJson? c := by
  refine ⟨fun _ _ _ h hname => h.drop hname, fun _ _ _ _ v h hname => h.insert hname v,
    fun q hq => ?query, fun i hi => ?insert, fun u hu => ?update, fun d hd => ?delete,
    fun b hb => ?blueprint, fun c hc => ?call, fun s => ?sequence, fun c => ?config⟩
  case query => exact { form_write := q.form_toJson, read_form := q.ofJson?_of_form style hq }
  case insert =>
    exact { form_write := i.form_toJson, read_form := fun _ => Insert.ofJson?_of_form style hi }
  case update =>
    exact { form_write := u.form_toJson, read_form := fun _ => Update.ofJson?_of_form style hu }
  case delete =>
    exact { form_write := d.form_toJson, read_form := fun _ => Delete.ofJson?_of_form style hd }
  case blueprint =>
    exact { form_write := b.form_toJson, read_form := fun _ => Blueprint.ofJson?_of_form style hb }
  case call =>
    exact { form_write := c.form_toJson, read_form := fun _ => ProcedureCall.ofJson?_of_form hc }
  case sequence =>
    exact { form_write := s.form_toJson, read_form := fun _ => SequenceSpec.ofJson?_of_form }
  case config =>
    exact { form_write := c.form_toJson, read_form := fun _ => Config.ofJson?_of_form }

/-- A query in a query, with every field left out that may be and others put in at three depths. -/
theorem descriptions_read_back_subquery :
    let orders : Query := { Query.ofTable "orders" with
      wheres := [⟨.or, .compare "total" ">" (.int 5)⟩], limit := some 3 }
    let q : Query := { Query.ofTable "users" with wheres := [⟨.and, .subquery orders false⟩] }
    q.Obeys .exact ∧ Query.ofJson? .strict (.object [("note", .null), ("table", .text "users"),
      ("wheres", .list [.object [("kind", tagged "Exists" (.object [("hint", .bool true),
        ("query", .object [("limit", .int 3), ("note", .list []), ("table", .text "orders"),
          ("wheres", .list [.object [("boolean", .text "or"),
            ("kind", tagged "Basic" (.object [("column", .text "total"),
              ("operator", .text ">"), ("value", tagged "Int" (.int 5))]))]])])]))]])]) = some q := by
  intro orders q
  have hq : q.Obeys .exact := by
    simp [q, orders, Query.ofTable, Query.Obeys, predicatesObey, Condition.Obeys, joinsObey,
      Rules.exact, Value.IsExact]
  refine ⟨hq, ((descriptions_read_back .strict).2.2.1 q hq).read_form _ ?_⟩
  simp [q, orders, Query.ofTable, Query.Form, predicatesForm, Predicate.Form, Condition.Form,
    Condition.compareForm, RecordForm, TaggedForm, FieldForm.StandsIn, FieldForm.required, FieldForm.optional,
    FieldForm.nullable, Value.toJson, tagged, List.lookup_cons, Connector.keyword, ofUInt64]

end OracleSql
