import ChatRelay.Bytes
import ChatRelay.Fault

/-!
# Files and the paths to them

Files stand in directories, and a path leads to one of them name by name, from the root if it
begins with a slash and from a working directory otherwise. An empty name and a point stay where
they are, two points go to the directory around, and each of them needs a directory to be in.

    tree.read workingDirectory path = .ok contents

says that the path leads to a file with these contents.
-/

namespace ChatRelay

/-- A file, or a directory with what is in it under its names. -/
inductive FileTree
  | file (contents : Bytes)
  | directory (entries : List (String × FileTree))
  deriving Inhabited

namespace FileTree

/-- The longest name that is looked up, in bytes. -/
def maxNameLength : Nat := 255

/-- The longest path that is followed, in bytes. -/
def maxPathLength : Nat := 4095

/-- What names lead to from a place, `around` being the directories around it, the nearest first.
The root is the directory around itself. -/
def follow (around : List FileTree) (here : FileTree) : List String → Except Fault FileTree
  | [] => .ok here
  | name :: rest =>
    match here with
    | .file _ => .error .notADirectory
    | .directory entries =>
      if name = "" ∨ name = "." then follow around here rest
      else if name = ".." then
        match around with
        | [] => follow [] here rest
        | outer :: around => follow around outer rest
      else if maxNameLength < name.utf8ByteSize then .error .nameTooLong
      else
        match entries.lookup name with
        | some entry => follow (here :: around) entry rest
        | none => .error .notFound

/-- The names that a path consists of, seen from the root. -/
def names (workingDirectory : List String) (path : String) : List String :=
  if path.startsWith "/" then path.splitOn "/" else workingDirectory ++ path.splitOn "/"

/-- The contents of the file that a path leads to. -/
def read (root : FileTree) (workingDirectory : List String) (path : String) :
    Except Fault Bytes := do
  if path.toList.contains '\x00' then throw .endInName
  if path = "" then throw .notFound
  if maxPathLength < path.utf8ByteSize then throw .nameTooLong
  match ← follow [] root (names workingDirectory path) with
  | .file contents => return contents
  | .directory _ => throw .isADirectory

end FileTree

end ChatRelay
