/-!
# Files

What is found under a path. A path is followed name by name, from the root or, without a slash in
front, from the working directory; a slash at its end asks for a directory. Names and paths have a
largest length, counted in octets.
-/

namespace Entitlement

inductive FileFault where
  | missing
  | notDirectory
  | isDirectory
  | tooLong
  -- The contents are no text.
  | encoding
deriving DecidableEq, Repr, Inhabited

def FileFault.message : FileFault → String
  | missing => "No such file or directory (os error 2)"
  | notDirectory => "Not a directory (os error 20)"
  | isDirectory => "Is a directory (os error 21)"
  | tooLong => "File name too long (os error 36)"
  | encoding => "stream did not contain valid UTF-8"

inductive FileContent where
  | text (contents : String)
  | binary
deriving DecidableEq, Repr, Inhabited

inductive Place where
  | directory (names : List String)
  | file (content : FileContent)
deriving DecidableEq, Repr, Inhabited

/-- Files and directories, each by the names that lead to it from the root. -/
structure FileTree where
  -- The directories beneath the root.
  directories : List (List String) := []
  files : List (List String × FileContent) := []
  -- The working directory.
  working : List String := []
deriving DecidableEq, Repr, Inhabited

namespace FileTree

def largestName : Nat := 255

def largestPath : Nat := 4095

def enter (t : FileTree) (place : Place) (name : String) : Except FileFault Place :=
  match place with
  | .file _ => .error .notDirectory
  | .directory names =>
    if name = "." then .ok place
    else if name = ".." then .ok (.directory names.dropLast)
    else if largestName < name.utf8ByteSize then .error .tooLong
    else
      let names := names ++ [name]
      match t.files.lookup names with
      | some content => .ok (.file content)
      | none => if t.directories.contains names then .ok (.directory names) else .error .missing

def names (path : String) : List String :=
  let named := (path.splitOn "/").filter (· ≠ "")
  if path.endsWith "/" then named ++ ["."] else named

def locate (t : FileTree) (path : String) : Except FileFault Place :=
  if path.isEmpty then .error .missing
  else if largestPath < path.utf8ByteSize then .error .tooLong
  else (names path).foldlM t.enter (.directory (if path.startsWith "/" then [] else t.working))

def read (t : FileTree) (path : String) : Except FileFault String := do
  match ← t.locate path with
  | .directory _ => throw .isDirectory
  | .file .binary => throw .encoding
  | .file (.text contents) => return contents

end FileTree

end Entitlement
