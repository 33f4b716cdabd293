import Mathlib.Data.List.Forall2
import Mathlib.Data.List.Nodup
import OracleSql.Json.Fields

/-!
# Forms of records

A record can be written in more than one way: a field that may be missing need not be there, the
fields stand in any order, and members of other names may stand among them.  `RecordForm` says
which objects are a form of a record, given which values are a form of each field; it stays a
form when a field that may be missing is left out (`RecordForm.drop`) and when a member of another
name is put in anywhere (`RecordForm.insert`).

`record?_of_form` turns a form into what a reader finds, field by field (`Record.Has`), and the
lemmas after it say what each way of reading a field makes of this.
-/

namespace OracleSql.Json

/-- What may stand for a field of a record. -/
structure FieldForm where
  name : String
  /-- Whether the field may be left out. -/
  mayMiss : Prop
  /-- Whether a value is a form of the field's. -/
  writes : Json → Prop

namespace FieldForm

/-- A field that has to be there. -/
def required (name : String) (writes : Json → Prop) : FieldForm :=
  ⟨name, False, writes⟩

/-- A field that may be left out when it holds what it means when it is missing. -/
def optional (name : String) (isMissing : Prop) (writes : Json → Prop) : FieldForm :=
  ⟨name, isMissing, writes⟩

/-- A field that is null, or left out, when it has no value. -/
def nullable {α : Type} (name : String) (writes : α → Json → Prop) (value : Option α) : FieldForm :=
  ⟨name, value = none, fun j => value.elim (j = null) (writes · j)⟩

/-- **What stands for a field among the members of an object**: one value that is a form of the
field's, or nothing where that is allowed. -/
def StandsIn (f : FieldForm) (members : Members) : Prop :=
  (members.map Prod.fst).count f.name ≤ 1 ∧
    match members.lookup f.name with
    | none => f.mayMiss
    | some v => f.writes v

end FieldForm

/-- **The forms of a record**: objects in which every field stands as it may. -/
def RecordForm (fields : List FieldForm) (j : Json) : Prop :=
  ∃ members, j = object members ∧ ∀ f ∈ fields, f.StandsIn members

/-- The forms of an alternative with content. -/
def TaggedForm (name : String) (form : Json → Prop) (j : Json) : Prop :=
  ∃ v, j = tagged name v ∧ form v

def ListForm {α : Type} (form : α → Json → Prop) (xs : List α) (j : Json) : Prop :=
  ∃ items, j = list items ∧ List.Forall₂ form xs items

def PairForm {α β : Type} (first : α → Json → Prop) (second : β → Json → Prop) (p : α × β)
    (j : Json) : Prop :=
  ∃ v w, j = ofPair v w ∧ first p.1 v ∧ second p.2 w

/-- **An object that is written with all its fields** is a form of the record. -/
theorem recordForm_of_forall₂ {fields : List FieldForm} {members : Members}
    (hnodup : (fields.map (·.name)).Nodup)
    (h : List.Forall₂ (fun f m => m.1 = f.name ∧ f.writes m.2) fields members) :
    RecordForm fields (object members) := by
  have hnames : members.map Prod.fst = fields.map (·.name) := by
    clear hnodup
    induction h with
    | nil => rfl
    | cons hm _ ih => rw [List.map_cons, List.map_cons, hm.1, ih]
  refine ⟨members, rfl, fun f hf => ⟨?_, ?_⟩⟩
  · rw [hnames]
    exact List.nodup_iff_count_le_one.mp hnodup _
  · clear hnames
    induction h with
    | nil => cases hf
    | @cons g m fields members hm _ ih =>
      obtain ⟨hg, hnodup⟩ := List.nodup_cons.mp hnodup
      obtain ⟨name, v⟩ := m
      rw [List.lookup_cons]
      rcases List.mem_cons.mp hf with rfl | hf
      · rw [beq_iff_eq.mpr hm.1.symm]
        exact hm.2
      · have hne : f.name ≠ name := by
          intro heq
          have hmem : f.name ∈ fields.map (·.name) := List.mem_map_of_mem hf
          rw [heq, show name = g.name from hm.1] at hmem
          exact hg hmem
        rw [beq_eq_false_iff_ne.mpr hne]
        exact ih hnodup hf

theorem writes_ofOption {α : Type} (name : String) {writes : α → Json → Prop} {write : α → Json}
    (h : ∀ a, writes a (write a)) (value : Option α) :
    (FieldForm.nullable name writes value).writes (ofOption write value) := by
  cases value with
  | none => rfl
  | some a => exact h a

theorem writes_ofOption_self {α : Type} (name : String) (write : α → Json) (value : Option α) :
    (FieldForm.nullable name (fun a j => j = write a) value).writes (ofOption write value) :=
  @writes_ofOption α name (fun a j => j = write a) write (fun _ => rfl) value

theorem listForm_ofList {α : Type} {form : α → Json → Prop} {write : α → Json} {xs : List α}
    (h : ∀ x ∈ xs, form x (write x)) : ListForm form xs (ofList write xs) := by
  refine ⟨_, rfl, ?_⟩
  rw [List.forall₂_map_right_iff]
  exact List.forall₂_same.mpr h

/-! ### Leaving out and adding -/

theorem lookup_filter_of_ne {name other : String} (h : name ≠ other) (members : Members) :
    (members.filter fun m => m.1 ≠ other).lookup name = members.lookup name := by
  induction members with
  | nil => rfl
  | cons m members ih =>
    obtain ⟨n, v⟩ := m
    by_cases hn : n = other
    · rw [List.filter_cons_of_neg (by simpa using hn), ih, List.lookup_cons,
        beq_eq_false_iff_ne.mpr (hn ▸ h)]
    · rw [List.filter_cons_of_pos (by simpa using hn), List.lookup_cons, List.lookup_cons, ih]

theorem lookup_eq_none_of_forall_ne {name : String} {members : Members}
    (h : ∀ m ∈ members, m.1 ≠ name) : members.lookup name = none := by
  rw [List.lookup_eq_none_iff]
  exact fun m hm => bne_iff_ne.mpr (h m hm).symm

/-- **A field that may be missing can be left out.** -/
theorem RecordForm.drop {fields : List FieldForm} {members : Members}
    (h : RecordForm fields (object members)) {name : String}
    (hname : ∀ f ∈ fields, f.name = name → f.mayMiss) :
    RecordForm fields (object (members.filter fun m => m.1 ≠ name)) := by
  obtain ⟨_, heq, hfields⟩ := h
  cases heq
  refine ⟨_, rfl, fun f hf => ?_⟩
  obtain ⟨hcount, hstands⟩ := hfields f hf
  refine ⟨Nat.le_trans ((List.filter_sublist.map _).count_le _) hcount, ?_⟩
  by_cases hsame : f.name = name
  · rw [lookup_eq_none_of_forall_ne fun m hm => ?_]
    · exact hname f hf hsame
    · rw [hsame]
      simpa using (List.mem_filter.mp hm).2
  · rw [lookup_filter_of_ne hsame]
    exact hstands

/-- **A member of another name can be put in anywhere.** -/
theorem RecordForm.insert {fields : List FieldForm} {before after : Members}
    (h : RecordForm fields (object (before ++ after))) {name : String}
    (hname : ∀ f ∈ fields, f.name ≠ name) (v : Json) :
    RecordForm fields (object (before ++ (name, v) :: after)) := by
  obtain ⟨_, heq, hfields⟩ := h
  cases heq
  refine ⟨_, rfl, fun f hf => ?_⟩
  have hne := hname f hf
  obtain ⟨hcount, hstands⟩ := hfields f hf
  constructor
  · simpa [List.count_append, List.count_cons, hne.symm] using hcount
  · rw [List.lookup_append] at hstands ⊢
    rw [List.lookup_cons, beq_eq_false_iff_ne.mpr hne]
    exact hstands

/-! ### Reading a record -/

/-- What a reader makes of a part goes into what it makes of the rest. -/
theorem read_eq {α β : Type} {x : Option α} {a : α} {next : α → Option β} {b : β}
    (hx : x = some a) (hnext : next a = some b) : x >>= next = some b := by
  rw [hx]
  exact hnext

namespace Record

variable {α : Type} {j : Json} {r : Record j}

/-- What a reader finds of a field: nothing, where it may be missing, or a form of its value. -/
def Has (r : Record j) (f : FieldForm) : Prop :=
  (r.given.lookup f.name = none ∧ f.mayMiss) ∨
    ∃ part, r.given.lookup f.name = some part ∧ f.writes part.val

theorem required_eq {name : String} {writes : Json → Prop} (h : r.Has (.required name writes))
    {read : Part j → Option α} {a : α} (hread : ∀ part, writes part.val → read part = some a) :
    r.required name read = some a := by
  rcases h with ⟨-, hmiss⟩ | ⟨part, hpart, hwrites⟩
  · exact hmiss.elim
  · rw [required, show r.given.lookup name = some part from hpart, Option.bind_some]
    exact hread part hwrites

theorem optional_eq {name : String} {writes : Json → Prop} {a missing : α}
    (h : r.Has (.optional name (a = missing) writes)) {read : Part j → Option α}
    (hread : ∀ part, writes part.val → read part = some a) :
    r.optional name missing read = some a := by
  rcases h with ⟨hnone, hmiss⟩ | ⟨part, hpart, hwrites⟩
  · rw [optional, show r.given.lookup name = none from hnone, show a = missing from hmiss]
  · rw [optional, show r.given.lookup name = some part from hpart]
    exact hread part hwrites

/-- A value that may be missing is read back, if no form of it is null. -/
theorem nullable_eq {name : String} {writes : α → Json → Prop} {value : Option α}
    (h : r.Has (.nullable name writes value)) {read : Part j → Option α}
    (hnull : ∀ a, ¬writes a null)
    (hread : ∀ a ∈ value, ∀ part, writes a part.val → read part = some a) :
    r.nullable name read = some value := by
  rcases h with ⟨hnone, hmiss⟩ | ⟨⟨v, hv⟩, hpart, hwrites⟩
  · rw [nullable, show r.given.lookup name = none from hnone, show value = none from hmiss]
  · rw [nullable, show r.given.lookup name = some ⟨v, hv⟩ from hpart]
    cases value with
    | none =>
      obtain rfl : v = null := hwrites
      rfl
    | some a =>
      have hwrites : writes a v := hwrites
      have hread := hread a rfl ⟨v, hv⟩ hwrites
      cases v with
      | null => exact absurd hwrites (hnull a)
      | _ => simp only [hread, Option.map_some]

theorem nullable_of_eq {name : String} {write : α → Json} {value : Option α}
    (h : r.Has (.nullable name (fun a j => j = write a) value)) (hnull : ∀ a, write a ≠ null)
    {read : Json → Option α} (hread : ∀ a ∈ value, read (write a) = some a) :
    r.nullable name (leaf read) = some value :=
  nullable_eq h (fun a h => hnull a h.symm) fun a ha part hpart => by
    rw [leaf, show part.val = write a from hpart]
    exact hread a ha

end Record

/-- Looking up a part is looking up its value. -/
theorem lookup_map_val {j : Json} (parts : List (String × Part j)) (name : String) :
    (parts.map fun p => (p.1, p.2.val)).lookup name = (parts.lookup name).map Subtype.val := by
  induction parts with
  | nil => rfl
  | cons p parts ih =>
    rw [List.map_cons, List.lookup_cons, List.lookup_cons, ih]
    split <;> rfl

/-- **What a reader finds in a form of a record.** -/
theorem record?_of_form {fields : List FieldForm} {j : Json} (h : RecordForm fields j) :
    ∃ r, j.record? (fields.map (·.name)) = some r ∧ ∀ f ∈ fields, r.Has f := by
  obtain ⟨members, rfl, hfields⟩ := h
  let parts : List (String × Part (object members)) :=
    members.attach.map fun m => (m.1.1, ⟨m.1.2, sizeOf_lt_of_mem_object m.2⟩)
  have hparts : (parts.map fun p => (p.1, p.2.val)) = members := by
    rw [List.map_map]
    exact List.attach_map_subtype_val members
  have hcount : (fields.map (·.name)).all
      (fun name => decide ((members.map Prod.fst).count name ≤ 1)) = true := by
    rw [List.all_map, List.all_eq_true]
    exact fun f hf => decide_eq_true (hfields f hf).1
  refine ⟨⟨parts⟩, by rw [record?, if_pos hcount], fun f hf => ?_⟩
  have hstands := (hfields f hf).2
  rw [← hparts, lookup_map_val] at hstands
  cases hpart : parts.lookup f.name with
  | none =>
    rw [hpart] at hstands
    exact .inl ⟨hpart, hstands⟩
  | some part =>
    rw [hpart] at hstands
    exact .inr ⟨part, hpart, hstands⟩

/-- So does a reader of the content of an alternative, in any style. -/
theorem contentRecord?_of_form {fields : List FieldForm} {j : Json} (h : RecordForm fields j)
    (style : Style) :
    ∃ r, j.contentRecord? style (fields.map (·.name)) = some r ∧ ∀ f ∈ fields, r.Has f := by
  have hlist : ¬(style = .strict ∧ j.list?.isSome = true) := by
    obtain ⟨members, rfl, -⟩ := h
    exact fun h => absurd h.2 (by simp [list?])
  rw [contentRecord?, if_neg hlist]
  exact record?_of_form h

/-! ### Lists -/

theorem mapM_of_forall₂ {α β : Type} {read : β → Option α} {xs : List α} {ys : List β}
    (h : List.Forall₂ (fun x y => read y = some x) xs ys) : ys.mapM read = some xs := by
  induction h with
  | nil => rfl
  | cons hread _ ih =>
    rw [List.mapM_cons, hread, ih]
    rfl

/-- **Items are read one by one.** -/
theorem items_of_forall₂ {α : Type} {form : α → Json → Prop} {xs : List α} {items : List Json}
    (h : List.Forall₂ form xs items) {read : Part (list items) → Option α}
    (hread : ∀ x part, form x part.val → read part = some x) :
    (list items).items read = some xs := by
  rw [← List.attach_map_subtype_val items, List.forall₂_map_right_iff] at h
  exact mapM_of_forall₂ (h.imp fun x ⟨v, hv⟩ hform => hread x ⟨v, sizeOf_lt_of_mem_list hv⟩ hform)

theorem items_of_listForm {α : Type} {read : Json → Option α} {xs : List α} {j : Json}
    (h : ListForm (fun x item => read item = some x) xs j) :
    (j.items fun part => read part.val) = some xs := by
  obtain ⟨items, rfl, hitems⟩ := h
  exact items_of_forall₂ hitems fun _ _ hread => hread

theorem listOf?_of_form {α : Type} {form : α → Json → Prop} {read : Json → Option α} {xs : List α}
    (hread : ∀ x ∈ xs, ∀ j, form x j → read j = some x) {j : Json} (h : ListForm form xs j) :
    j.listOf? read = some xs := by
  obtain ⟨items, rfl, hitems⟩ := h
  have hmem : List.Forall₂ (fun x j => x ∈ xs ∧ form x j) xs items :=
    (List.forall₂_and_left _ _).mpr ⟨fun _ hx => hx, hitems⟩
  exact items_of_forall₂ hmem fun x part hform => hread x hform.1 part.val hform.2

theorem listOf?_ofList {α : Type} {read : Json → Option α} {write : α → Json} {xs : List α}
    (h : ∀ x ∈ xs, read (write x) = some x) : (ofList write xs).listOf? read = some xs := by
  have hform : ListForm (fun x j => j = write x) xs (ofList write xs) :=
    listForm_ofList fun _ _ => rfl
  refine listOf?_of_form (fun x hx j hj => ?_) hform
  rw [show j = write x from hj]
  exact h x hx

theorem pairOf?_ofPair {α β : Type} {readFirst : Json → Option α} {readSecond : Json → Option β}
    {v w : Json} {p : α × β} (hfirst : readFirst v = some p.1) (hsecond : readSecond w = some p.2) :
    (ofPair v w).pairOf? readFirst readSecond = some p := by
  rw [pairOf?, ofPair, pair?]
  simp only [Option.bind_eq_bind, Option.bind_some, hfirst, hsecond]
  rfl

theorem pairOf?_of_form {α β : Type} {first : α → Json → Prop} {second : β → Json → Prop}
    {readFirst : Json → Option α} {readSecond : Json → Option β} {p : α × β}
    (hfirst : ∀ j, first p.1 j → readFirst j = some p.1)
    (hsecond : ∀ j, second p.2 j → readSecond j = some p.2) {j : Json}
    (h : PairForm first second p j) : j.pairOf? readFirst readSecond = some p := by
  obtain ⟨v, w, rfl, hv, hw⟩ := h
  exact pairOf?_ofPair (hfirst v hv) (hsecond w hw)

/-! ### Values without parts -/

theorem leaf_of_listForm {α : Type} {read : Json → Option α} {xs : List α} {j : Json}
    {part : Part j} (h : ListForm (fun x item => read item = some x) xs part.val) :
    leaf (listOf? read) part = some xs :=
  items_of_listForm h

theorem leaf_of_eq {α : Type} {j v : Json} {read : Json → Option α} {a : α} (h : read v = some a) :
    ∀ part : Part j, part.val = v → leaf read part = some a := by
  rintro ⟨_, _⟩ rfl
  exact h

theorem leaf_of_forms {α : Type} {form : α → Json → Prop} {read : Json → Option α} {xs : List α}
    (hread : ∀ x ∈ xs, ∀ j, form x j → read j = some x) {j : Json} :
    ∀ part : Part j, ListForm form xs part.val → leaf (listOf? read) part = some xs :=
  fun _ h => listOf?_of_form hread h

theorem leaf_text {j : Json} (s : String) :
    ∀ part : Part j, part.val = text s → leaf text? part = some s :=
  leaf_of_eq rfl

theorem leaf_bool {j : Json} (b : Bool) :
    ∀ part : Part j, part.val = bool b → leaf bool? part = some b :=
  leaf_of_eq rfl

theorem leaf_texts {j : Json} (xs : List String) :
    ∀ part : Part j, part.val = ofList text xs → leaf (listOf? text?) part = some xs :=
  leaf_of_eq (listOf?_ofList fun _ _ => rfl)

theorem wordOf?_text {α : Type} (style : Style) {words : List (String × α)} {name : String} {a : α}
    (h : words.lookup name = some a) : (text name).wordOf? style words = some a := by
  rw [wordOf?, alternative?]
  simp only [Option.bind_eq_bind, Option.bind_some, h, word]

theorem int64?_int (n : Int64) : (int n.toInt).int64? = some n := by
  have hwithin : -Int.pow 2 63 ≤ n.toInt ∧ n.toInt ≤ Int.pow 2 63 - 1 :=
    ⟨n.le_toInt, Int.le_sub_one_of_lt n.toInt_lt⟩
  rw [int64?, intWithin?, if_pos hwithin, Option.map_some, Int64.ofInt_toInt]

theorem uint64?_ofUInt64 (n : UInt64) : (ofUInt64 n).uint64? = some n := by
  have hbound : n.toNat < 2 ^ 64 := n.toNat_lt
  have hwithin : (0 : Int) ≤ n.toNat ∧ (n.toNat : Int) ≤ Int.pow 2 64 - 1 :=
    ⟨Int.natCast_nonneg _, by change (n.toNat : Int) ≤ 18446744073709551615; omega⟩
  rw [uint64?, ofUInt64, intWithin?, if_pos hwithin, Option.map_some, Int.toNat_natCast,
    UInt64.ofNat_toNat]

theorem uint32?_ofUInt32 (n : UInt32) : (ofUInt32 n).uint32? = some n := by
  have hbound : n.toNat < 2 ^ 32 := n.toNat_lt
  have hwithin : (0 : Int) ≤ n.toNat ∧ (n.toNat : Int) ≤ Int.pow 2 32 - 1 :=
    ⟨Int.natCast_nonneg _, by change (n.toNat : Int) ≤ 4294967295; omega⟩
  rw [uint32?, ofUInt32, intWithin?, if_pos hwithin, Option.map_some, Int.toNat_natCast,
    UInt32.ofNat_toNat]

theorem byte?_int (n : UInt8) : (int n.toNat).byte? = some n := by
  have hbound : n.toNat < 2 ^ 8 := n.toNat_lt
  have hwithin : (0 : Int) ≤ n.toNat ∧ (n.toNat : Int) ≤ 255 := ⟨Int.natCast_nonneg _, by omega⟩
  rw [byte?, intWithin?, if_pos hwithin, Option.map_some, Int.toNat_natCast, UInt8.ofNat_toNat]

namespace Record

variable {j : Json} {r : Record j} {name : String}

theorem nullable_text_eq {value : Option String}
    (h : r.Has (.nullable name (fun s j => j = text s) value)) :
    r.nullable name (leaf text?) = some value :=
  nullable_of_eq h nofun fun _ _ => rfl

theorem nullable_uint64_eq {value : Option UInt64}
    (h : r.Has (.nullable name (fun n j => j = ofUInt64 n) value)) :
    r.nullable name (leaf uint64?) = some value :=
  nullable_of_eq h nofun fun n _ => uint64?_ofUInt64 n

theorem nullable_uint32_eq {value : Option UInt32}
    (h : r.Has (.nullable name (fun n j => j = ofUInt32 n) value)) :
    r.nullable name (leaf uint32?) = some value :=
  nullable_of_eq h nofun fun n _ => uint32?_ofUInt32 n

end Record

end OracleSql.Json
