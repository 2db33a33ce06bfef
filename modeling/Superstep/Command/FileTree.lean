import Superstep.KeyMap

/-! # File trees

What is found under a path: the content of a file, or the reason why there is
none. A path is walked one part at a time. Every part, even one that stays where
it is, needs a directory to start from; two dots lead to the directory around it.
-/

namespace Superstep

/-- Why a file cannot be read. -/
inductive ReadFault where
  | missing
  | directory
  | throughFile
  /-- The path or one of its parts has too many bytes. -/
  | nameTooLong
  | other (message : String)
  deriving DecidableEq

def ReadFault.message : ReadFault → String
  | .missing => "No such file or directory (os error 2)"
  | .directory => "Is a directory (os error 21)"
  | .throughFile => "Not a directory (os error 20)"
  | .nameTooLong => "File name too long (os error 36)"
  | .other message => message

/-- A way to read files by their paths. -/
abbrev Reader := String → Except ReadFault String

/-- A place in a tree of files: the names that lead there from the root. -/
abbrev FileTree.Place := List String

/-- A tree of files. -/
structure FileTree where
  files : List (FileTree.Place × String)
  /-- Directories that may be empty. All directories around them and around
      files are in the tree too. -/
  directories : List FileTree.Place
  /-- The directory where a path starts that does not start at the root. -/
  working : FileTree.Place

namespace FileTree

/-- What stands at a place. -/
inductive Entry where
  | directory
  | file (content : String)
  deriving DecidableEq

/-- The most bytes that a name may have. -/
def nameLimit : Nat := 255

def pathLimit : Nat := 4096

/-- Characters cut at slashes; `part` is the part that is read, the last
    character first. -/
def splitChars (part : List Char) : List Char → List String
  | [] => [String.ofList part.reverse]
  | '/' :: rest => String.ofList part.reverse :: splitChars [] rest
  | c :: rest => splitChars (c :: part) rest

def partsOf (path : String) : List String :=
  splitChars [] path.toList

/-- The place that a part of a path leads to. The root is around itself. -/
def step (here : Place) (part : String) : Place :=
  if part = "" ∨ part = "." then here
  else if part = ".." then here.dropLast
  else here ++ [part]

def start (working : Place) (path : String) : Place :=
  if path.startsWith "/" then [] else working

def entry? (tree : FileTree) (place : Place) : Option Entry :=
  match tree.files.lookup place with
  | some content => some (.file content)
  | none =>
      let known := tree.working :: tree.directories ++ tree.files.map Prod.fst
      if known.any place.isPrefixOf then some .directory else none

def walk (tree : FileTree) (here : Place) : List String → Except ReadFault String
  | [] =>
      match tree.entry? here with
      | none => .error .missing
      | some .directory => .error .directory
      | some (.file content) => .ok content
  | part :: rest =>
      match tree.entry? here with
      | none => .error .missing
      | some (.file _) => .error .throughFile
      | some .directory =>
          if nameLimit < part.utf8ByteSize then .error .nameTooLong
          else tree.walk (step here part) rest

def read (tree : FileTree) : Reader := fun path =>
  if path.isEmpty then .error .missing
  else if pathLimit ≤ path.utf8ByteSize then .error .nameTooLong
  else tree.walk (start tree.working path) (partsOf path)

/-- The directories that are there on every system. -/
def usualDirectories : List Place :=
  (["bin", "boot", "dev", "etc", "home", "lib", "media", "mnt", "opt", "proc", "root", "run",
    "sbin", "srv", "sys", "tmp", "usr", "var"].map ([·])) ++
    (["bin", "lib", "local", "sbin", "share"].map (["usr", ·])) ++
    (["lib", "log", "tmp"].map (["var", ·]))

/-- The files that are there on every system: the null device and the standard
    input, of which nothing is read, and the list of users. -/
def usualFiles : List (Place × String) := [
  (["dev", "null"], ""),
  (["dev", "stdin"], ""),
  (["etc", "passwd"], "root:x:0:0:root:/root:/bin/sh\n")]

/-- A fresh directory among those for temporary files. Its name is not to be
    known, so it is one that no path spells. -/
def freshDirectory : Place := ["tmp", "/"]

/-- Files in a fresh directory, with what is there on every system around it. -/
def ofFiles (files : KeyMap String) : FileTree where
  files :=
    usualFiles ++ files.entries.map fun file =>
      ((partsOf file.1).foldl step (start freshDirectory file.1), file.2)
  directories := usualDirectories
  working := freshDirectory

end FileTree

end Superstep
