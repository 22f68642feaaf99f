/-!
# Files

What a program can read is a **tree** of directories with files at its ends. A path is walked
through it name by name: an empty name and `.` stay where they are, `..` goes one directory up,
and any other name goes down. Every step starts in a directory, so that a file can only be
reached by the last name, and a path that ends with a slash leads to no file.

The tree is known from the working directory downwards. What lies outside is taken for a
directory with nothing in it.
-/

namespace Contention.CommandLine

/-- Why a file could not be read. -/
inductive FileError where
  | notFound
  /-- A name stands below something that is not a directory. -/
  | notDirectory
  | isDirectory
  | nameTooLong
  /-- The contents are not UTF-8. -/
  | notText
  | other (text : String)
deriving DecidableEq, Repr

/-- The error's text. -/
def FileError.message : FileError → String
  | .notFound => "No such file or directory (os error 2)"
  | .notDirectory => "Not a directory (os error 20)"
  | .isDirectory => "Is a directory (os error 21)"
  | .nameTooLong => "File name too long (os error 36)"
  | .notText => "stream did not contain valid UTF-8"
  | .other text => text

/-- The text in a file. -/
def decodeFile (contents : Except FileError ByteArray) : Except FileError String := do
  match String.fromUTF8? (← contents) with
  | some text => .ok text
  | none => .error .notText

/-- A file, or a directory with what stands in it under each name. -/
inductive FileTree where
  | file (contents : ByteArray)
  | directory (entries : List (String × FileTree))

namespace FileTree

/-- A directory with nothing in it. -/
def empty : FileTree := .directory []

/-- What stands in a directory; a file holds no entries. -/
def entries : FileTree → List (String × FileTree)
  | .file _ => []
  | .directory entries => entries

/-- Put `new` at a place below a tree, making the directories that lead there. -/
def insert (new : FileTree) : FileTree → List String → FileTree
  | _, [] => new
  | tree, name :: names =>
    let below := (List.lookup name tree.entries).getD empty
    .directory ((name, insert new below names) :: tree.entries)

/-- The most bytes in a name. -/
def longestName : Nat := 255

/-- The most bytes in a path. -/
def longestPath : Nat := 4095

/-- Follow names from a node. The first argument holds the directories above the node, the
nearest first. -/
def walk : List FileTree → FileTree → List String → Except FileError FileTree
  | _, here, [] => .ok here
  | _, .file _, _ :: _ => .error .notDirectory
  | above, .directory entries, name :: names =>
    if name = "" ∨ name = "." then walk above (.directory entries) names
    else if name = ".." then
      match above with
      | [] => walk [] empty names
      | up :: above => walk above up names
    else if longestName < name.utf8ByteSize then .error .nameTooLong
    else
      match List.lookup name entries with
      | none => .error .notFound
      | some next => walk (.directory entries :: above) next names

/-- The names of a path, which stand between its slashes. -/
def pathNames (path : String) : List String :=
  (path.toList.splitOn '/').map String.ofList

/-- Whether a path starts outside of the working directory. -/
def isAbsolute (path : String) : Bool := path.toList.head? == some '/'

/-- The contents of the file at a path. -/
def read (tree : FileTree) (path : String) : Except FileError ByteArray :=
  if path = "" then .error .notFound
  else if longestPath < path.utf8ByteSize then .error .nameTooLong
  else
    match walk [] (if isAbsolute path then empty else tree) (pathNames path) with
    | .error e => .error e
    | .ok (.directory _) => .error .isDirectory
    | .ok (.file contents) => .ok contents

end FileTree

end Contention.CommandLine
