import Rowwise.Text.Utf8

/-!
# Directories

A directory of files by name, and what can go wrong with a file. Names are relative paths; `.` and
doubled slashes do not count.
-/

namespace Rowwise

/-- Why a file cannot be read or written. -/
inductive FileError
  | notFound
  | notADirectory
  | isADirectory
  | other (message : String)
  deriving DecidableEq

namespace FileError

/-- The message for the user. -/
def message : FileError → String
  | notFound => "No such file or directory (os error 2)"
  | notADirectory => "Not a directory (os error 20)"
  | isADirectory => "Is a directory (os error 21)"
  | other message => message

end FileError

/-- The files of a directory and of the directories in it, by the parts of their paths. -/
structure Directory where
  files : List (List Text × Bytes)

namespace Directory

/-- The parts of a path between slashes. -/
def splitPath : Text → List Text
  | [] => [[]]
  | c :: rest =>
    match splitPath rest with
    | part :: more => if c = '/' then [] :: part :: more else (c :: part) :: more
    | [] => [[c]]

/-- The parts of a path that count. -/
def parts (path : Text) : List Text :=
  (splitPath path).filter fun part => part ≠ [] ∧ part ≠ ['.']

/-- Whether a path can only mean a directory. -/
def endsInDirectory (path : Text) : Bool :=
  match (splitPath path).getLast? with
  | some part => part = [] ∨ part = ['.']
  | none => true

/-- A directory without files. -/
def empty : Directory := ⟨[]⟩

/-- The directory with some files. -/
def ofFiles (files : List (Text × Bytes)) : Directory :=
  ⟨files.map fun file => (parts file.1, file.2)⟩

/-- Whether there is a directory of this name. -/
def hasDirectory (directory : Directory) (name : List Text) : Bool :=
  name.isEmpty ||
    directory.files.any fun file => name.isPrefixOf file.1 && name.length < file.1.length

/-- The name of the file that a path means, unless there is none that it could mean. -/
def locate (directory : Directory) (path : Text) : Except FileError (List Text) :=
  let name := parts path
  let inFile := (List.range name.length).any fun n => (directory.files.lookup (name.take n)).isSome
  if path.isEmpty || path.head? = some '/' then .error .notFound
  else if inFile then .error .notADirectory
  else if directory.hasDirectory name then .error .isADirectory
  else if !directory.hasDirectory name.dropLast then .error .notFound
  else if endsInDirectory path then
    .error (if (directory.files.lookup name).isSome then .notADirectory else .isADirectory)
  else .ok name

/-- The content of a file. -/
def read (directory : Directory) (path : Text) : Except FileError Bytes := do
  match directory.files.lookup (← directory.locate path) with
  | some content => .ok content
  | none => .error .notFound

/-- The directory with a file that has this content. -/
def write (directory : Directory) (path : Text) (content : Bytes) :
    Except FileError Directory := do
  let name ← directory.locate path
  .ok ⟨(name, content) :: directory.files.filter (·.1 ≠ name)⟩

end Directory

end Rowwise
