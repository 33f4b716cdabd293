/-!
# Files that a command looks at

What there is at a path (`FileStatus`), and a tree of files in which paths are resolved part by
part from its root (`Files.status`), so that a path may run through `.` and `..` and is refused
where it runs through a file.
-/

namespace OracleSql.CommandLine

/-- What there is at a path. -/
inductive FileStatus where
  | file (content : String)
  | directory
  | missing
  /-- The path runs through something that is no directory. -/
  | notDirectory
  /-- There is a file that cannot be read, and why. -/
  | unreadable (reason : String)
deriving DecidableEq

namespace FileStatus

def isPresent : FileStatus → Bool
  | file _ | directory | unreadable _ => true
  | missing | notDirectory => false

def isFile : FileStatus → Bool
  | file _ | unreadable _ => true
  | _ => false

/-- The content of a file, or why it cannot be read. -/
def content : FileStatus → Except String String
  | file content => .ok content
  | directory => .error "Is a directory (os error 21)"
  | missing => .error "No such file or directory (os error 2)"
  | notDirectory => .error "Not a directory (os error 20)"
  | unreadable reason => .error reason

end FileStatus

/-- Files with their paths from a root directory. -/
abbrev Files := List (String × String)

namespace Files

def parts (path : String) : List String :=
  (path.toList.splitOn '/').map String.ofList

/-- What there is at the end of plain names. -/
def statusAt (files : Files) (names : List String) : FileStatus :=
  match files.find? fun file => parts file.1 == names with
  | some (_, content) => .file content
  | none =>
    if names.isEmpty || files.any fun file => names.isPrefixOf (parts file.1) then .directory
    else .missing

/-- What there is outside the tree: the directories above it, and nothing that has a name. -/
def outside (parts : List String) : FileStatus :=
  if parts.all fun part => part = "" || part = "." || part = ".." then .directory else .missing

/-- Follow parts of a path from a place that is reached by plain names. -/
def follow (files : Files) (names : List String) : List String → FileStatus
  | [] => files.statusAt names
  | part :: rest =>
    match files.statusAt names with
    | .file _ => .notDirectory
    | .directory =>
      if part = "" ∨ part = "." then follow files names rest
      else if part = ".." then
        if names.isEmpty then outside rest else follow files names.dropLast rest
      else follow files (names ++ [part]) rest
    | other => other

/-- **What there is at a path.** -/
def status (files : Files) (path : String) : FileStatus :=
  match path.toList with
  | [] => .missing
  | '/' :: _ => outside (parts path)
  | _ => files.follow [] (parts path)

end Files

end OracleSql.CommandLine
