import Conductor.Path
import Conductor.Text.Quoted
import Conductor.Text.Utf8

/-! Files, and what can keep one from being read. -/

namespace Conductor

/-- Why a file is not read: an error of the system, with its number and words, or a zero in the name
of the file, which never gets to the system.
-/
inductive ReadError where
  | system (number : Nat) (words : String)
  | zeroInName
  deriving DecidableEq, Repr

namespace ReadError

def missing : ReadError := .system 2 "No such file or directory"

def denied : ReadError := .system 13 "Permission denied"

def notDirectory : ReadError := .system 20 "Not a directory"

def isDirectory : ReadError := .system 21 "Is a directory"

def longName : ReadError := .system 36 "File name too long"

/-- Whether there is no such file. -/
def isMissing : ReadError → Bool
  | .system number _ => number == 2
  | .zeroInName => false

/-- Whether the file may not be read. The system has two numbers for this. -/
def isDenied : ReadError → Bool
  | .system number _ => number == 1 || number == 13
  | .zeroInName => false

def message (error : ReadError) (path : String) : String :=
  match error with
  | .system number words =>
    "[Errno " ++ toString number ++ "] " ++ words ++ ": " ++ Text.quoted path
  | .zeroInName => "embedded null byte"

end ReadError

/-- What reading the file at each path comes to. -/
abbrev Files := String → Except ReadError Bytes

/-- What a name stands for: a file, a directory, or a file that may not be read. -/
inductive FileEntry where
  | file (content : Bytes)
  | directory
  | denied
  deriving DecidableEq, Repr

/-- Files and directories by their paths, from the working directory or from a root. -/
abbrev FileTree := List (String × FileEntry)

namespace FileTree

/-- The longest part of a path, in bytes. -/
def maxNameLength : Nat := 255

/-- What a path stands for; a directory need not be listed when something within it is. -/
def entry? (tree : FileTree) (path : String) : Option FileEntry :=
  match tree.lookup path with
  | some entry => some entry
  | none =>
    let within := (path ++ "/").toList
    if tree.any fun (name, _) => within.isPrefixOf name.toList then some .directory else none

/-- Walks down the parts of a path from a directory, whose parts below the root are `here`, in
reverse.
-/
def walk (tree : FileTree) (root : String) (here : List String)
    : List String → Except ReadError Bytes
  | [] => .error .isDirectory
  | part :: rest =>
    if part = ".." then walk tree root here.tail rest
    else if maxNameLength < part.utf8ByteSize then .error .longName
    else
      match entry? tree (Path.ofParts root (part :: here).reverse), rest with
      | none, _ => .error .missing
      | some .directory, rest => walk tree root (part :: here) rest
      | some _, _ :: _ => .error .notDirectory
      | some .denied, [] => .error .denied
      | some (.file content), [] => .ok content

def read (tree : FileTree) : Files := fun path =>
  if path.contains '\x00' then .error .zeroInName
  else walk tree (Path.root path) [] (Path.parts path)

end FileTree

end Conductor
