/-!
# Files

What reading a file gives, or why it cannot be read. A `FileTree` is a small file system: files by their
paths, a current directory, and the way from there to the file that a name stands for.
-/

namespace FilterQuery

inductive ReadFault where
  | missing
  | notADirectory
  | isADirectory
  | nameTooLong
  | notText
  | other (message : String)
deriving DecidableEq, Repr

def ReadFault.message : ReadFault → String
  | missing => "No such file or directory (os error 2)"
  | notADirectory => "Not a directory (os error 20)"
  | isADirectory => "Is a directory (os error 21)"
  | nameTooLong => "File name too long (os error 36)"
  | notText => "stream did not contain valid UTF-8"
  | other message => message

structure File where
  text : String
  /-- Whether the file is kept on a disk, and no device. -/
  regular : Bool := true
deriving DecidableEq, Repr

abbrev Files := String → Except ReadFault File

namespace Files

/-- Whether a name stands for a file on a disk. -/
def hasRegular (files : Files) (name : String) : Bool :=
  match files name with
  | .ok file => file.regular
  | .error .notText => true
  | .error _ => false

end Files

/-- A file system. A path is a list of names from the root on. -/
structure FileTree where
  /-- The current directory. -/
  here : List String
  files : List (List String × File)
  /-- Directories that may have no files. -/
  directories : List (List String) := []

inductive FileNode where
  | directory (path : List String)
  | file (f : File)

namespace FileTree

def isDirectory (t : FileTree) (path : List String) : Bool :=
  path.isPrefixOf t.here || t.files.any (path.isPrefixOf ·.1) || t.directories.any path.isPrefixOf

def node? (t : FileTree) (path : List String) : Option FileNode :=
  match t.files.find? (·.1 == path) with
  | some (_, file) => some (.file file)
  | none => if t.isDirectory path then some (.directory path) else none

/-- The number of bytes that a name within a directory can have. -/
def nameLimit : Nat := 255

/-- The number of bytes that a whole name can have. -/
def pathLimit : Nat := 4095

/-- Follows the parts of a name. An empty part and a dot stay in a directory, two dots leave it; behind a
file nothing can follow, not even an empty part. -/
def walk (t : FileTree) : FileNode → List String → Except ReadFault FileNode
  | node, [] => .ok node
  | .file _, _ :: _ => .error .notADirectory
  | .directory path, part :: rest =>
    if part == "" || part == "." then t.walk (.directory path) rest
    else if part == ".." then t.walk (.directory path.dropLast) rest
    else if nameLimit < part.utf8ByteSize then .error .nameTooLong
    else
      match t.node? (path ++ [part]) with
      | some node => t.walk node rest
      | none => .error .missing

/-- What reading the file of a name gives. A name that starts with a slash is followed from the root, any
other one from the current directory. -/
def read (t : FileTree) : Files := fun name =>
  let start := if name.startsWith "/" then [] else t.here
  if pathLimit < name.utf8ByteSize then .error .nameTooLong else
  match t.walk (.directory start) (name.splitOn "/") with
  | .ok (.file file) => .ok file
  | .ok (.directory _) => .error (if name == "" then .missing else .isADirectory)
  | .error fault => .error fault

def commonDirectories : List (List String) :=
  [["bin"], ["dev"], ["etc"], ["home"], ["lib"], ["proc"], ["root"], ["sys"], ["tmp"], ["usr"], ["var"]]

/-- A system with files in the current directory, and with devices that give nothing and the standard
input. -/
def ofFiles (files : List (String × String)) (input : String) : FileTree :=
  let here := ["home", "user"]
  { here
    files := (files.map fun (name, text) => (here ++ name.splitOn "/", ⟨text, true⟩))
      ++ [(["dev", "null"], ⟨"", false⟩), (["dev", "stdin"], ⟨input, false⟩)]
    directories := commonDirectories }

end FileTree

end FilterQuery
