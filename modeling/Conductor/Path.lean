import Conductor.Text.Affix

/-!
File paths in their normal text: repeated and trailing slashes and single dots are left out, two
dots are kept, and a path that names nothing is a single dot.
-/

namespace Conductor.Path

/-- The parts of a path between its slashes. -/
def splitSlash (part : List Char) (done : List (List Char)) : List Char → List (List Char)
  | [] => (part.reverse :: done).reverse
  | '/' :: rest => splitSlash [] (part.reverse :: done) rest
  | c :: rest => splitSlash (c :: part) done rest

/-- The parts of a path that lead somewhere else. -/
def parts (path : String) : List String :=
  ((splitSlash [] [] path.toList).map String.ofList).filter fun part =>
    !part.isEmpty && part != "."

/-- The root of a path: two slashes at its start are a root of their own, any other number of
slashes is one.
-/
def root (path : String) : String :=
  match path.toList with
  | '/' :: '/' :: '/' :: _ => "/"
  | '/' :: '/' :: _ => "//"
  | '/' :: _ => "/"
  | _ => ""

/-- A root and parts as text. -/
def ofParts (root : String) (parts : List String) : String :=
  let text := root ++ "/".intercalate parts
  if text.isEmpty then "." else text

/-- A path in its normal text. -/
def normal (path : String) : String :=
  ofParts (root path) (parts path)

def isAbsolute (path : String) : Bool :=
  !(root path).isEmpty

/-- Parts of which each pair of dots has taken back the part before it. `done` holds the parts
before these in reverse.
-/
def withoutBack (done : List String) : List String → List String
  | [] => done.reverse
  | part :: rest =>
    if part = ".." then withoutBack done.tail rest else withoutBack (part :: done) rest

/-- A path from the root of all paths, seen from a directory, where no links are on the way. -/
def resolved (directory path : String) : String :=
  let whole := if isAbsolute path then path else directory ++ "/" ++ path
  ofParts "/" (withoutBack [] (parts whole))

/-- The path of a home directory without the slashes at its end. -/
def homeText (home : String) : String :=
  String.ofList (home.toList.reverse.dropWhile (· == '/')).reverse

/-- A path in which a user's name behind a tilde in the first place stands for the home directory of
the user, and a tilde alone for one's own. None when that directory is not known.
-/
def expanded? (home : String → Option String) (path : String) : Option String :=
  match parts path with
  | [] => some path
  | first :: rest =>
    if isAbsolute path then some path
    else
      match Text.restAfter? "~" first with
      | none => some path
      | some user =>
        (home user).bind fun home =>
          let base := homeText home
          if Text.beginsWith "~" base then none
          else
            let base := if base.isEmpty then "/" else base
            some (ofParts (root base) (parts base ++ rest))

end Conductor.Path
