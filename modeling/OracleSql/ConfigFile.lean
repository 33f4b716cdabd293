import OracleSql.Descriptor.Config
import OracleSql.Toml.Printer
import OracleSql.Toml.Reader

/-!
# Configurations in files

A configuration file is a TOML text.  Every setting may be missing, and keys of other names are
passed over.  `Config.ofFileText` reads a file and refuses settings that the database cannot honour;
`Config.fileText` writes all settings, the session options last in a table of their own.
-/

namespace OracleSql

namespace Toml

def text? : Toml → Option String
  | text s => some s
  | _ => none

/-- A number that is not negative. -/
def uint64? : Toml → Option UInt64
  | integer n => if 0 ≤ n.toInt then some (UInt64.ofNat n.toInt.toNat) else none
  | _ => none

/-- Whether the value is a table or list with nothing in it. -/
def isVoid : Toml → Bool
  | list items => items.isEmpty
  | table _ entries => entries.isEmpty
  | tables elements => elements.isEmpty
  | _ => false

/-- One of a list of words: as a string, or as the only key of a table with nothing under it. -/
def wordOf? {α : Type} (words : List (String × α)) : Toml → Option α
  | text s => words.lookup s
  | table _ [(key, value)] => if value.isVoid then words.lookup key else none
  | _ => none

/-- The key under which a moment stands where it is taken for a table. -/
def momentKey : String := "$__toml_private_datetime"

/-- The texts under the keys of a table; a moment is one of its own. -/
def options? : Toml → Option Options
  | moment m => some (Options.ofList [(momentKey, m.text)])
  | table _ entries => do
    return Options.ofList (← entries.mapM fun (key, value) => do return (key, ← value.text?))
  | _ => none

/-- The value of a key, or another one where the key is missing. -/
def setting {α : Type} (entries : Entries) (key : String) (missing : α)
    (read : Toml → Option α) : Option α :=
  match entries.lookup key with
  | none => some missing
  | some value => read value

end Toml

namespace Config

/-- The configuration that the root table of a file gives. -/
def ofEntries? (entries : Toml.Entries) : Option Config := do
  let get {α : Type} : String → α → (Toml → Option α) → Option α := Toml.setting entries
  return {
    schemaPrefix := ← get "schema_prefix" none fun v => v.text?.map some
    tablePrefix := ← get "table_prefix" standard.tablePrefix Toml.text?
    maxIdentifierLength :=
      ← get "max_identifier_length" standard.maxIdentifierLength Toml.uint64?
    identifierCase :=
      ← get "identifier_case" standard.identifierCase (Toml.wordOf? IdentifierCase.words)
    dateFormat := ← get "date_format" standard.dateFormat Toml.text?
    timestampFormat := ← get "timestamp_format" standard.timestampFormat Toml.text?
    timestampTzFormat := ← get "timestamp_tz_format" standard.timestampTzFormat Toml.text?
    sessionVars := ← get "session_vars" .empty Toml.options? }

/-- **Read and check a configuration file.** -/
def ofFileText (content : String) : Except ConfigError Config :=
  match Toml.read? content >>= ofEntries? with
  | none => .error .malformed
  | some c => do
    c.validate
    return c

/-- **The file of a configuration.** -/
def fileText (c : Config) : String :=
  let option (key value : String) : String := Toml.pairLine key (Toml.quoted value)
  (match c.schemaPrefix with
    | some schema => option "schema_prefix" schema
    | none => "")
  ++ option "table_prefix" c.tablePrefix
  ++ Toml.pairLine "max_identifier_length" (toString c.maxLength)
  ++ option "identifier_case" c.identifierCase.word
  ++ option "date_format" c.dateFormat
  ++ option "timestamp_format" c.timestampFormat
  ++ option "timestamp_tz_format" c.timestampTzFormat
  ++ "\n[session_vars]\n"
  ++ String.join (c.sessionVars.entries.map fun p => option p.1 p.2)

end Config

end OracleSql
