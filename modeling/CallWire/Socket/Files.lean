import CallWire.Io.Errno

/-!
The files of a working directory. A path is a row of names; `.` stays and `..` leads back, which
only directories allow, and every name but the last has to be that of one. Nothing is known above
the working directory: `..` stays there, as it does at a root.
-/

namespace CallWire

inductive FileKind
  | regular
  | directory
  | socket
  deriving DecidableEq, Repr

structure FileEntry where
  /-- The names that lead here from the working directory. -/
  place : List String
  /-- A number that no other file has or had. -/
  inode : Nat
  kind : FileKind
  mode : Nat
  deriving DecidableEq, Repr

/-- The entries below the working directory, which itself needs none. -/
abbrev FileTree := List FileEntry

/-- The root of all paths that start with a slash. -/
def rootPlace : List String := ["/"]

namespace FileTree

def find? (tree : FileTree) (place : List String) : Option FileEntry :=
  List.find? (fun entry => entry.place == place) tree

def kindAt? (tree : FileTree) (place : List String) : Option FileKind :=
  if place = [] ∨ place = rootPlace then some .directory else (tree.find? place).map (·.kind)

/-- Where a name leads from a directory. -/
def enter (place : List String) (name : String) : List String :=
  if name = "." then place
  else if name ≠ ".." then place ++ [name]
  else if place = rootPlace then place
  else place.dropLast

def walk (tree : FileTree) (place : List String) : List String → Except IoError (List String)
  | [] => .ok place
  | name :: rest =>
    match tree.kindAt? place with
    | none => .error .noSuchFile
    | some .directory => tree.walk (enter place name) rest
    | some _ => .error .notADirectory

/-- The names of a path; slashes in a row are as good as one. -/
def names (path : String) : List String := (path.splitOn "/").filter fun name => name ≠ ""

/-- A path that ends in a slash can only be that of a directory. -/
def namesDirectory (path : String) : Bool := path.toList.getLast? == some '/'

/-- Where a path leads, whether or not something is there. -/
def locate (tree : FileTree) (path : String) : Except IoError (List String) :=
  if path = "" then .error .noSuchFile
  else tree.walk (if path.toList.head? = some '/' then rootPlace else []) (names path)

/-- What is at a path; links are not part of this. -/
def lookup (tree : FileTree) (path : String) : Except IoError FileEntry :=
  match tree.locate path with
  | .error error => .error error
  | .ok place =>
    match tree.kindAt? place, tree.find? place with
    | none, _ => .error .noSuchFile
    | some .directory, some entry => .ok entry
    | some kind, none => .ok ⟨place, 0, kind, 0o755⟩
    | some _, some entry => if namesDirectory path then .error .notADirectory else .ok entry

/-- The place of a file to be made, where there must be none. -/
def vacancy (tree : FileTree) (path : String) : Except IoError (List String) :=
  match tree.locate path with
  | .error error => .error error
  | .ok place => if (tree.kindAt? place).isSome then .error .fileExists else .ok place

def remove (tree : FileTree) (place : List String) : FileTree :=
  List.filter (fun entry => !place.isPrefixOf entry.place) tree

end FileTree
end CallWire
