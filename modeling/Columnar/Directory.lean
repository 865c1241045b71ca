import Columnar.Failure

/-!
# Files and paths

The files that relations are loaded from, seen from the directory the program works in.

A path is a sequence of components separated by slashes.  Empty components and those that
stay in place (`.`) do not matter, except that a path with such an ending has to lead to
a directory.

## Main definitions

* `Entry`, `Directory` — what each path leads to.
* `Place.follow`, `Directory.locate` — where a path leads, one component after the other.
* `Directory.ofFiles` — a directory that holds just the given files.
* `fileStem` — the name of a relation loaded from a path.
-/

namespace Columnar

/-- What a path leads to. -/
inductive Entry where
  /-- A file with its contents. -/
  | file (contents : ByteArray)
  /-- A directory. -/
  | directory
  /-- Nothing, for the given reason. -/
  | absent (cause : FileError)

/-- The files that can be loaded: what each path leads to. -/
abbrev Directory := String → Entry

/-! ### Paths -/

/-- Whether a component of a path leaves the place unchanged. -/
def staysInPlace (component : List Char) : Bool := component == [] || component == ['.']

/-- The components of a path, those that stay in place left out. -/
def pathComponents (path : String) : List (List Char) :=
  (path.toList.splitOn '/').filter fun component => !staysInPlace component

/-- The last component of a path; none if the path has no component or ends in a step
upwards. -/
def fileName? (path : String) : Option (List Char) :=
  (pathComponents path).getLast?.filter (· ≠ ['.', '.'])

/-- A file name without its extension: what precedes its last point, unless nothing
does. -/
def stem (name : List Char) : List Char :=
  match (name.reverse.dropWhile (· ≠ '.')).drop 1 with
  | [] => name
  | before => before.reverse

/-- The name of a relation loaded from a path: the stem of its file name, or the path
itself where it has none. -/
def fileStem (path : String) : String :=
  match fileName? path with
  | some name => String.ofList (stem name)
  | none => path

/-! ### A directory of files -/

/-- Where a path has led so far. -/
inductive Place where
  /-- To the directory that the program works in. -/
  | here
  /-- To a directory above that one. -/
  | above
  /-- To the root of the system. -/
  | root
  /-- To a directory in the root of the system. -/
  | system (name : String)
  /-- To a file. -/
  | file (contents : ByteArray)

/-- The names of the directories in the root of a system. -/
def systemDirectories : List String :=
  ["bin", "boot", "dev", "etc", "home", "lib", "media", "mnt", "opt", "proc", "root", "run",
   "sbin", "srv", "sys", "tmp", "usr", "var"]

namespace Place

/-- The directory that holds a directory.  The root holds itself. -/
def parent : Place → Place
  | .here | .above => .above
  | _ => .root

/-- What has a given name in a directory, if the working directory holds the given files.
Nothing is known of the other directories, except for those of the system and its null
device, which reads as an empty file. -/
def child? (files : List (String × ByteArray)) (place : Place) (name : String) : Option Place :=
  match place with
  | .here => (files.lookup name).map .file
  | .root => if name ∈ systemDirectories then some (.system name) else none
  | .system directory =>
    if directory = "dev" ∧ name = "null" then some (.file ByteArray.empty) else none
  | .above | .file _ => none

/-- The number of bytes that a component of a path may have. -/
def maxComponentSize : Nat := 255

/-- Follows one component of a path.  Nothing is below a file, not even the file itself. -/
def follow (files : List (String × ByteArray)) (place : Place) (component : List Char) :
    Except FileError Place :=
  let name := String.ofList component
  match place with
  | .file _ => .error .notADirectory
  | _ =>
    if staysInPlace component then .ok place
    else if name = ".." then .ok place.parent
    else if maxComponentSize < name.utf8ByteSize then .error .nameTooLong
    else
      match place.child? files name with
      | some place => .ok place
      | none => .error .notFound

/-- What is at a place. -/
def entry : Place → Entry
  | .file contents => .file contents
  | _ => .directory

end Place

namespace Directory

/-- The number of bytes that a path may have. -/
def maxPathSize : Nat := 4095

/-- Where a path leads, if the working directory holds the given files and nothing else. -/
def locate (files : List (String × ByteArray)) (path : String) : Except FileError Place :=
  let start := if path.toList.head? = some '/' then Place.root else Place.here
  if '\x00' ∈ path.toList then .error .nulInPath
  else if path = "" then .error .notFound
  else if maxPathSize < path.utf8ByteSize then .error .nameTooLong
  else (path.toList.splitOn '/').foldlM (Place.follow files) start

/-- The directory that holds the given files and nothing else. -/
def ofFiles (files : List (String × ByteArray)) : Directory := fun path =>
  match locate files path with
  | .ok place => place.entry
  | .error cause => .absent cause

end Directory

end Columnar
