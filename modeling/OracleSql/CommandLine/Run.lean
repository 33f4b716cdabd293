import OracleSql.ColumnList.Parser
import OracleSql.CommandLine.Files
import OracleSql.CommandLine.Listing
import OracleSql.ConfigFile
import OracleSql.Descriptor.Schema
import OracleSql.Descriptor.Write
import OracleSql.Json.Reader
import OracleSql.Schema.Plan
import OracleSql.Write.Compile

/-!
# Running the command

`run` answers arguments with a `Report`: an exit code, a text for the standard output, and for a
run that fails a message.  It looks at no file itself; what there is at the paths that it needs
(`neededPaths`) comes with the `Place` in which it runs.
-/

namespace OracleSql.CommandLine

/-- Where a command runs. -/
structure Place where
  /-- The directory of the user's configurations. -/
  configDirectory : Option String
  /-- What there is at a path. -/
  status : String → FileStatus

/-- How a run ends. -/
structure Report where
  exitCode : Nat
  stdout : String
  /-- Why the run failed. -/
  message : Option String
deriving DecidableEq

/-- What a run that goes wrong tells. -/
abbrev Message := String

/-! ### Configuration -/

def localConfigFile : String := "qail-oracle.toml"

/-- The places in which a configuration is looked for, one after another. -/
def searchPaths (configDirectory : Option String) : List String :=
  localConfigFile :: (configDirectory.map fun d => d ++ "/qail-oracle/config.toml").toList

def inputErrorMessage (reason : String) : Message :=
  "IO error: " ++ reason ++ ": " ++ reason

def loadConfig (status : FileStatus) : Except Message Config := do
  let content ← status.content.mapError inputErrorMessage
  (Config.ofFileText content).mapError ConfigError.message

/-- The configuration to start from: that of a given file, or of the first file that is found. -/
def baseConfig (place : Place) (file : Option String) : Except Message Config :=
  match file with
  | some path => (loadConfig (place.status path)).mapError fun m => "loading " ++ path ++ ": " ++ m
  | none =>
    match (searchPaths place.configDirectory).find? fun path => (place.status path).isFile with
    | some path => loadConfig (place.status path)
    | none => .ok .standard

/-- **The configuration of a run**: options stand over the file, and the result is checked. -/
def effectiveConfig (place : Place) (i : Invocation) : Except Message Config := do
  let base ← baseConfig place i.configFile
  let c := { base with
    schemaPrefix := i.schemaPrefix <|> base.schemaPrefix
    tablePrefix := i.tablePrefix.getD base.tablePrefix }
  c.validate.mapError ConfigError.message
  return c

/-- The search paths, marked where there is a file, and the configuration. -/
def configListing (place : Place) (c : Config) : String :=
  let line (path : String) : String :=
    "  " ++ (if (place.status path).isPresent then "✓" else "·") ++ " " ++ path
  unlines (["Search paths:"] ++ (searchPaths place.configDirectory).map line
    ++ ["", "Effective configuration:", c.fileText])

/-! ### Descriptions -/

/-- A description in a file. -/
inductive Description where
  | select (q : Query)
  | probe (q : Query)
  | insert (i : Insert)
  | insertGetId (i : Insert)
  | insertBlobs (i : Insert)
  | update (u : Update)
  | updateBlobs (u : Update)
  | delete (d : Delete)
  | blueprint (b : Blueprint)

namespace Description

/-- What a description describes, and the record that describes it: an object says it in its
member `kind`, a list in its first item. -/
def split? : Json → Option (String × Json)
  | .object members => do
    guard ((members.map Prod.fst).count "kind" = 1)
    return (← members.lookup "kind" >>= Json.text?, .object members)
  | .list (kind :: items) => do return (← kind.text?, .list items)
  | _ => none

/-- Read a description.  Files are written in lenient style. -/
def ofJson? (j : Json) : Option Description := do
  let (kind, record) ← split? j
  match kind with
  | "select" => return select (← Query.ofJson? .lenient record)
  | "exists" => return probe (← Query.ofJson? .lenient record)
  | "insert" => return insert (← Insert.ofJson? .lenient record)
  | "insert_get_id" => return insertGetId (← Insert.ofJson? .lenient record)
  | "insert_lob" => return insertBlobs (← Insert.ofJson? .lenient record)
  | "update" => return update (← Update.ofJson? .lenient record)
  | "update_lob" => return updateBlobs (← Update.ofJson? .lenient record)
  | "delete" => return delete (← Delete.ofJson? .lenient record)
  | "blueprint" => return blueprint (← Blueprint.ofJson? .lenient record)
  | _ => none

def compile (c : Config) : Description → Compile (List Statement)
  | select q => return [← q.select c]
  | probe q => return [← q.exists? c]
  | insert i => return [← i.compile c]
  | insertGetId i => return [← i.compileGetId c]
  | insertBlobs i => return [← i.compileBlobs c]
  | update u => return [← u.compile c]
  | updateBlobs u => return [← u.compileBlobs c]
  | delete d => return [← d.compile c]
  | blueprint b => return (← b.plan c).map Statement.ofText

/-- Whether positional binds can be asked for; the plan of a blueprint has none. -/
def isNumberable : Description → Bool
  | blueprint _ => false
  | _ => true

end Description

def readDescription (file : String) (status : FileStatus) : Except Message Description := do
  let content ← status.content.mapError fun reason => "reading " ++ file ++ ": " ++ reason
  match Json.read? content >>= Description.ofJson? with
  | some d => return d
  | none => throw ("parsing descriptor " ++ file)

/-! ### Tasks -/

def compiled {α : Type} (x : Compile α) : Except Message α :=
  x.result.mapError CompileError.message

def Task.output (place : Place) (c : Config) (format : Format) : Task → Except Message String
  | create table columns comment => do
    let columns ← (ColumnList.parseColumns columns).mapError ParseError.message
    let b := { Blueprint.create table with columns, comment }
    return listing format false ((← compiled (b.plan c)).map Statement.ofText)
  | drop table key ifExists => do
    return listing format false (← compiled (dropPlan c table key ifExists))
  | compile file numbered => do
    let d ← readDescription file (place.status file)
    return listing format (numbered && d.isNumberable) (← compiled (d.compile c))
  | config => .ok (configListing place c)

def Invocation.output (place : Place) (i : Invocation) : Except Message String := do
  i.task.output place (← effectiveConfig place i) i.format

def Invocation.paths (configDirectory : Option String) (i : Invocation) : List String :=
  searchPaths configDirectory ++ i.configFile.toList
    ++ (match i.task with
        | .compile file _ => [file]
        | _ => [])

/-- The name of the command and its version. -/
def versionText : String := "qail-oracle 0.1.0"

def helpText : String :=
  unlines [
    "Usage: qail-oracle [OPTIONS] <COMMAND>",
    "",
    "Commands:",
    "  create <TABLE> <COLUMNS> [--comment <TEXT>]  List the statements that create a table",
    "  drop <TABLE> [--pk <COLUMN>] [--if-exists]   List the statements that drop a table",
    "  compile <FILE> [--numbered]                  List the statements of a description",
    "  config                                       Show the configuration",
    "",
    "Options:",
    "  -c, --config <FILE>     Configuration file",
    "      --schema <SCHEMA>   Schema of the tables",
    "      --prefix <PREFIX>   Text before table names",
    "  -f, --format <FORMAT>   sql or json",
    "  -v, --verbose           Tell more",
    "  -h, --help              Show this text",
    "  -V, --version           Show the version"]

/-- The paths that the run of an argument list looks at. -/
def neededPaths (configDirectory : Option String) (args : List String) : List String :=
  match Invocation.ofArguments args with
  | .ok i => i.paths configDirectory
  | .error _ => []

/-- **Run the command.**  Arguments that are refused exit with 2, a run that fails with 1. -/
def run (place : Place) (args : List String) : Report :=
  match Invocation.ofArguments args with
  | .error .refused => ⟨2, "", none⟩
  | .error .help => ⟨0, helpText, none⟩
  | .error .version => ⟨0, unlines [versionText], none⟩
  | .ok i =>
    match i.output place with
    | .ok text => ⟨0, text, none⟩
    | .error message => ⟨1, "", some message⟩

end OracleSql.CommandLine
