/-!
# Arguments of the command

A `Grammar` says which options an argument list may have and how many words.  Options stand as
`--name value`, `--name=value`, `-n value`, `-nvalue` or `-n=value`, and short ones without values
may be run together; after `--` everything is a word.  `Invocation.ofArguments` reads the
arguments of the whole command.
-/

namespace OracleSql.CommandLine

/-- What an option does. -/
inductive OptionKind where
  /-- It has a value, of which not every one is taken. -/
  | value (accepts : String → Bool)
  /-- It may be given once. -/
  | flag
  /-- It may be given any number of times. -/
  | count
  /-- It asks for a help text in place of a run. -/
  | help
  /-- It asks for the version in place of a run. -/
  | version

/-- An option with its names. -/
structure OptionSpec where
  long : String
  short : Option Char
  kind : OptionKind

/-- Why there is no run. -/
inductive Stop where
  | refused
  | help
  | version
deriving DecidableEq

/-- What has been read. -/
structure Scanned where
  values : List (String × String)
  flags : List String
  words : List String

namespace Scanned

def empty : Scanned := ⟨[], [], []⟩

def record (s : Scanned) (o : OptionSpec) (value : String) : Except Stop Scanned :=
  match o.kind with
  | .value accepts =>
    if accepts value && (s.values.lookup o.long).isNone then
      .ok { s with values := s.values ++ [(o.long, value)] }
    else .error .refused
  | _ => .error .refused

/-- An option without a value. -/
def note (s : Scanned) (o : OptionSpec) : Except Stop Scanned :=
  match o.kind with
  | .value _ => .error .refused
  | .flag =>
    if s.flags.contains o.long then .error .refused
    else .ok { s with flags := s.flags ++ [o.long] }
  | .count => .ok { s with flags := s.flags ++ [o.long] }
  | .help => .error .help
  | .version => .error .version

def value? (s : Scanned) (long : String) : Option String :=
  s.values.lookup long

/-- Whether an option without a value is given. -/
def has (s : Scanned) (long : String) : Bool :=
  s.flags.contains long

end Scanned

/-- The arguments that are taken. -/
structure Grammar where
  options : List OptionSpec
  /-- The largest number of words. -/
  words : Nat
  /-- The words at which reading stops. -/
  commands : List String

namespace Grammar

/-- An option that is written out, without its two hyphens.  One that still awaits its value is
handed on. -/
def long (g : Grammar) (s : Scanned) (cs : List Char) :
    Except Stop (Scanned × Option OptionSpec) :=
  let name := String.ofList (cs.takeWhile fun c => c != '=')
  let attached := cs.dropWhile fun c => c != '='
  match g.options.find? fun o => o.long == name with
  | none => .error .refused
  | some o =>
    match attached, o.kind with
    | _ :: value, _ => do return (← s.record o (String.ofList value), none)
    | [], .value _ => .ok (s, some o)
    | [], _ => do return (← s.note o, none)

/-- Options of one letter, without their hyphen.  One that still awaits its value is handed on. -/
def letters (g : Grammar) (s : Scanned) : List Char → Except Stop (Scanned × Option OptionSpec)
  | [] => .ok (s, none)
  | c :: cs =>
    match g.options.find? fun o => o.short == some c with
    | none => .error .refused
    | some o =>
      match o.kind, cs with
      | .value _, [] => .ok (s, some o)
      | .value _, '=' :: value => do return (← s.record o (String.ofList value), none)
      | .value _, value => do return (← s.record o (String.ofList value), none)
      | _, cs => do letters g (← s.note o) cs

/-- Whether an argument is an option; a single hyphen is a word. -/
def isOption (arg : String) : Bool :=
  arg.toList.head? == some '-' && arg != "-"

/-- An option, which may still await its value. -/
def option (g : Grammar) (s : Scanned) (arg : String) :
    Except Stop (Scanned × Option OptionSpec) :=
  match arg.toList with
  | '-' :: '-' :: cs => g.long s cs
  | _ :: cs => g.letters s cs
  | [] => .error .refused

/-- **Read arguments** up to the first command; what is left starts with it. -/
def scan (g : Grammar) (s : Scanned) : List String → Except Stop (Scanned × List String)
  | [] => .ok (s, [])
  | arg :: rest =>
    if arg = "--" then
      if s.words.length + rest.length ≤ g.words then
        .ok ({ s with words := s.words ++ rest }, [])
      else .error .refused
    else if isOption arg then
      match g.option s arg, rest with
      | .error stop, _ => .error stop
      | .ok (s, none), rest => scan g s rest
      | .ok (_, some _), [] => .error .refused
      | .ok (s, some o), value :: rest =>
        if isOption value then .error .refused
        else
          match s.record o value with
          | .error stop => .error stop
          | .ok s => scan g s rest
    else if g.commands.contains arg then .ok (s, arg :: rest)
    else if s.words.length < g.words then scan g { s with words := s.words ++ [arg] } rest
    else .error .refused

end Grammar

/-! ### The arguments of the whole command -/

inductive Format where
  | sql | json
deriving DecidableEq

/-- What the command is to do. -/
inductive Task where
  /-- List the plan that creates a table from a column list. -/
  | create (table columns : String) (comment : Option String)
  /-- List the plan that drops a table. -/
  | drop (table : String) (primaryKey : Option String) (ifExists : Bool)
  /-- List the statements of a description in a file. -/
  | compile (file : String) (numbered : Bool)
  /-- Show the configuration. -/
  | config
deriving DecidableEq

structure Invocation where
  configFile : Option String
  schemaPrefix : Option String
  tablePrefix : Option String
  format : Format
  task : Task
deriving DecidableEq

namespace Invocation

def formats : List (String × Format) := [("sql", .sql), ("json", .json)]

def anyValue (long : String) : OptionSpec :=
  ⟨long, none, .value fun _ => true⟩

def helpOption : OptionSpec := ⟨"help", some 'h', .help⟩

/-- The commands that have a task. -/
def taskNames : List String := ["create", "drop", "compile", "config"]

/-- What stands before the command. -/
def topGrammar : Grammar where
  options := [⟨"config", some 'c', .value fun path => !path.isEmpty⟩, anyValue "schema",
    anyValue "prefix", ⟨"format", some 'f', .value fun name => (formats.lookup name).isSome⟩,
    ⟨"verbose", some 'v', .count⟩, helpOption, ⟨"version", some 'V', .version⟩]
  words := 0
  commands := taskNames ++ ["help"]

/-- What follows a command. -/
def taskGrammar (options : List OptionSpec) (words : Nat) : Grammar :=
  ⟨options ++ [helpOption], words, []⟩

def scanTask (options : List OptionSpec) (words : Nat) (args : List String) :
    Except Stop Scanned := do
  return (← (taskGrammar options words).scan .empty args).1

def taskOf (command : String) (args : List String) : Except Stop Task :=
  match command with
  | "create" => do
    let s ← scanTask [anyValue "comment"] 2 args
    match s.words with
    | [table, columns] => return .create table columns (s.value? "comment")
    | _ => throw .refused
  | "drop" => do
    let s ← scanTask [anyValue "pk", ⟨"if-exists", none, .flag⟩] 1 args
    match s.words with
    | [table] => return .drop table (s.value? "pk") (s.has "if-exists")
    | _ => throw .refused
  | "compile" => do
    let s ← scanTask [⟨"numbered", none, .flag⟩] 1 args
    match s.words with
    | [file] => if file.isEmpty then throw .refused else return .compile file (s.has "numbered")
    | _ => throw .refused
  | "config" => do
    let _ ← scanTask [] 0 args
    return .config
  | "help" =>
    match args with
    | [] => .error .help
    | [command] => .error (if topGrammar.commands.contains command then .help else .refused)
    | _ => .error .refused
  | _ => .error .refused

/-- **The run that arguments ask for.** -/
def ofArguments (args : List String) : Except Stop Invocation := do
  let (s, rest) ← topGrammar.scan .empty args
  match rest with
  | [] => throw .refused
  | command :: args =>
    return {
      configFile := s.value? "config"
      schemaPrefix := s.value? "schema"
      tablePrefix := s.value? "prefix"
      format := ((s.value? "format").bind fun name => formats.lookup name).getD .sql
      task := ← taskOf command args }

end Invocation

example : (Invocation.ofArguments ["-vfjson", "drop", "t", "--pk=id"]).toOption =
    some ⟨none, none, none, .json, .drop "t" (some "id") false⟩ := by decide +kernel

end OracleSql.CommandLine
