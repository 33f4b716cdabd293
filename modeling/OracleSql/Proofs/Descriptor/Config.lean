import OracleSql.Descriptor.Config
import OracleSql.Proofs.Descriptor.Record

/-!
# Forms of configurations

Every field of a configuration may be missing where it holds what `Config.standard` says.  The
session options are one value: an object whose members are options and no fields.
-/

namespace OracleSql

open Json

theorem IdentifierCase.ofJson?_word (c : IdentifierCase) :
    IdentifierCase.ofJson? (.text c.word) = some c :=
  wordOf?_text .strict (by cases c <;> rfl)

namespace Config

def optionsToJson (o : Options) : Json :=
  .object (o.entries.map fun p => (p.1, .text p.2))

theorem optionsOfJson?_optionsToJson (o : Options) : optionsOfJson? (optionsToJson o) = some o := by
  let read (m : String × Json) : Option (String × String) := do return (m.1, ← m.2.text?)
  have hread : (o.entries.map fun p => (p.1, Json.text p.2)).mapM read = some o.entries := by
    refine mapM_of_forall₂ ?_
    rw [List.forall₂_map_right_iff]
    exact List.forall₂_same.mpr fun _ _ => rfl
  calc optionsOfJson? (optionsToJson o)
      = ((o.entries.map fun p => (p.1, Json.text p.2)).mapM read).bind
          fun options => some (Options.ofList options) := rfl
    _ = some (Options.ofList o.entries) := by rw [hread, Option.bind_some]
    _ = some o := by rw [o.ofList_entries]

def Form (c : Config) : Json → Prop :=
  RecordForm [.nullable "schema_prefix" (fun s j => j = .text s) c.schemaPrefix,
    .optional "table_prefix" (c.tablePrefix = standard.tablePrefix) (· = .text c.tablePrefix),
    .optional "max_identifier_length" (c.maxIdentifierLength = standard.maxIdentifierLength)
      (· = ofUInt64 c.maxIdentifierLength),
    .optional "identifier_case" (c.identifierCase = standard.identifierCase)
      (· = .text c.identifierCase.word),
    .optional "date_format" (c.dateFormat = standard.dateFormat) (· = .text c.dateFormat),
    .optional "timestamp_format" (c.timestampFormat = standard.timestampFormat)
      (· = .text c.timestampFormat),
    .optional "timestamp_tz_format" (c.timestampTzFormat = standard.timestampTzFormat)
      (· = .text c.timestampTzFormat),
    .optional "session_vars" (c.sessionVars = .empty) (· = optionsToJson c.sessionVars)]

theorem form_toJson (c : Config) : c.Form c.toJson :=
  recordForm_of_forall₂ (show fields.Nodup by decide)
    (.cons ⟨rfl, writes_ofOption_self _ _ c.schemaPrefix⟩ (.cons ⟨rfl, rfl⟩ (.cons ⟨rfl, rfl⟩
      (.cons ⟨rfl, rfl⟩ (.cons ⟨rfl, rfl⟩ (.cons ⟨rfl, rfl⟩ (.cons ⟨rfl, rfl⟩
      (.cons ⟨rfl, rfl⟩ .nil))))))))

theorem ofJson?_of_form {c : Config} {j : Json} (h : c.Form j) : ofJson? j = some c := by
  obtain ⟨r, hr, hfields⟩ := record?_of_form h
  simp only [List.forall_mem_cons] at hfields
  obtain ⟨hschema, htable, hlength, hcase, hdate, htimestamp, htz, hoptions, -⟩ := hfields
  rw [ofJson?]
  refine read_eq hr ?_
  refine read_eq (Record.nullable_text_eq hschema) ?_
  refine read_eq (Record.optional_eq htable (leaf_text _)) ?_
  refine read_eq (Record.optional_eq hlength (leaf_of_eq (uint64?_ofUInt64 _))) ?_
  refine read_eq (Record.optional_eq hcase (leaf_of_eq (IdentifierCase.ofJson?_word _))) ?_
  refine read_eq (Record.optional_eq hdate (leaf_text _)) ?_
  refine read_eq (Record.optional_eq htimestamp (leaf_text _)) ?_
  refine read_eq (Record.optional_eq htz (leaf_text _)) ?_
  refine read_eq (Record.optional_eq hoptions (leaf_of_eq (optionsOfJson?_optionsToJson _))) ?_
  rfl

end Config

end OracleSql
