import ModemLink.Bytes

/-!
# Files by their paths

A path is walked name by name, and the first name in the way decides why there is no file to read.
-/

namespace ModemLink

inductive FileError where
  | notFound
  /-- The path goes on after a file. -/
  | notDirectory
  | isDirectory
  | nameTooLong
  deriving DecidableEq, Repr

def FileError.message : FileError → String
  | notFound => "No such file or directory (os error 2)"
  | notDirectory => "Not a directory (os error 20)"
  | isDirectory => "Is a directory (os error 21)"
  | nameTooLong => "File name too long (os error 36)"

inductive FileNode where
  | file (content : Bytes)
  | directory
  deriving DecidableEq, Repr

/-- Files, and directories besides those in which the files are. -/
structure FileTree where
  files : List (String × Bytes) := []
  directories : List String := []
  /-- Where relative paths begin. -/
  current : String := "/"

namespace FileTree

/-- Directories that every machine has. -/
def systemDirectories : List String :=
  ["/bin", "/dev", "/etc", "/home", "/lib", "/mnt", "/opt", "/proc/self", "/root", "/run", "/sbin",
    "/srv", "/sys", "/tmp", "/usr/bin", "/usr/lib", "/usr/local", "/usr/share", "/var/lib",
    "/var/log", "/var/tmp"]

def pathLimit : Nat := 4096

def nameLimit : Nat := 255

/-- The names on a path from the root, as they are written. -/
def names (tree : FileTree) (path : String) : List String :=
  if path.startsWith "/" then path.splitOn "/" else tree.current.splitOn "/" ++ path.splitOn "/"

/-- The names on a path from the root, without those that lead nowhere. -/
def plainNames (tree : FileTree) (path : String) : List String :=
  (tree.names path).filter fun name => name != "" && name != "."

/-- What is at the end of the given names. -/
def node? (tree : FileTree) (place : List String) : Option FileNode :=
  match tree.files.find? fun (path, _) => tree.plainNames path = place with
  | some (_, content) => some (.file content)
  | none =>
      let paths := tree.current :: tree.directories ++ tree.files.map Prod.fst
      if paths.any fun path => place.isPrefixOf (tree.plainNames path) then some .directory
      else none

/-- Goes on from a directory. -/
def walk (tree : FileTree) (place : List String) : List String → Except FileError FileNode
  | [] => .ok .directory
  | name :: rest =>
      if name = "" ∨ name = "." then walk tree place rest
      else if name = ".." then walk tree place.dropLast rest
      else if nameLimit < name.utf8ByteSize then .error .nameTooLong
      else
        match tree.node? (place ++ [name]) with
        | none => .error .notFound
        | some .directory => walk tree (place ++ [name]) rest
        | some (.file content) => if rest.isEmpty then .ok (.file content) else .error .notDirectory

def read (tree : FileTree) (path : String) : Except FileError Bytes :=
  if pathLimit ≤ path.utf8ByteSize then .error .nameTooLong
  else
    match tree.walk [] (tree.names path) with
    | .ok (.file content) => .ok content
    | .ok .directory => .error .isDirectory
    | .error e => .error e

def contains (tree : FileTree) (path : String) : Bool :=
  match tree.read path with
  | .ok _ | .error .isDirectory => true
  | .error _ => false

end FileTree

end ModemLink
