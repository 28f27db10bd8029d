import ProductGraph.Text.Words

/-!
# Files

A tree of text files, addressed by paths with slashes.  A path is followed name by name, and every name but the last
has to lead to a directory, also where a step back follows.  Directories are there for the files in them.  A failed
look-up says why in the words of the operating system.
-/

namespace ProductGraph

/-- Why a file cannot be read. -/
inductive FileError where
  | notFound
  | notADirectory
  | isADirectory
  | notText
  | other (reason : String)
  deriving DecidableEq

def FileError.message : FileError → String
  | notFound => "No such file or directory (os error 2)"
  | notADirectory => "Not a directory (os error 20)"
  | isADirectory => "Is a directory (os error 21)"
  | notText => "stream did not contain valid UTF-8"
  | other reason => reason

/-- A way to read files by their paths. -/
abbrev FileReader := String → Except FileError String

def FileReader.empty : FileReader := fun _ => .error .notFound

/-- A path as the names that lead to a file. -/
abbrev Path := List String

namespace Path

def walk (path : Path) (name : String) : Path :=
  if name.isEmpty || name == "." then path
  else if name == ".." then path.dropLast
  else path ++ [name]

/-- The names between the slashes of a written path. -/
def names (s : String) : List String := (Text.pieces '/' s.toList).map String.ofList

/-- The path that a written one stands for. -/
def ofText (s : String) : Path := (names s).foldl walk []

/-- Whether one path leads through another and beyond. -/
def isBelow (path other : Path) : Bool := other.length < path.length && other.isPrefixOf path

def joined (directory name : String) : String :=
  if directory.isEmpty || directory.toList.getLast? == some '/' then directory ++ name
  else directory ++ "/" ++ name

/-- The name that a written path ends in, if it ends in one. -/
def fileName? (s : String) : Option String :=
  let steps := (names s).filter fun n => !n.isEmpty && n != "."
  steps.getLast?.filter (· != "..")

/-- The extension of a file name: what follows its last dot, unless nothing stands before that dot. -/
def extension? (s : String) : Option String :=
  match fileName? s with
  | none => none
  | some name =>
    let reversed := name.toList.reverse
    match reversed.dropWhile (· != '.') with
    | _ :: before => if before.isEmpty then none else some (String.ofList (reversed.takeWhile (· != '.')).reverse)
    | [] => none

end Path

/-- Text files by the paths that lead to them. -/
abbrev FileTree := List (Path × String)

namespace FileTree

def write (tree : FileTree) (path : Path) (text : String) : FileTree :=
  (tree.filter fun f => f.1 != path) ++ [(path, text)]

def delete (tree : FileTree) (path : Path) : FileTree := tree.filter fun f => f.1 != path

/-- Whether a path leads to a directory: the top, or the directory of a file. -/
def isDirectory (tree : FileTree) (path : Path) : Bool :=
  path.isEmpty || tree.any fun f => Path.isBelow f.1 path

def isFile (tree : FileTree) (path : Path) : Bool := tree.any fun f => f.1 == path

/-- Where the steps of a path lead from a place.  Each is taken in a directory. -/
def follow (tree : FileTree) (place : Path) : List String → Except FileError Path
  | [] => .ok place
  | name :: rest =>
    if tree.isDirectory place then follow tree (place.walk name) rest
    else .error (if tree.isFile place then .notADirectory else .notFound)

def read (tree : FileTree) : FileReader := fun written =>
  if written.isEmpty then .error .notFound
  else
    (tree.follow [] (Path.names written)).bind fun path =>
      match tree.find? (fun f => f.1 == path) with
      | some f => .ok f.2
      | none => .error (if tree.isDirectory path then .isADirectory else .notFound)

end FileTree

/-- Files that can be read, written and deleted. -/
class FileStore (σ : Type) where
  read : σ → FileReader
  write : σ → Path → String → σ
  delete : σ → Path → σ

instance : FileStore FileTree := ⟨FileTree.read, FileTree.write, FileTree.delete⟩

end ProductGraph
