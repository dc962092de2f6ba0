import RowQuery.Text.Split

/-!
Trees of files and directories, and how a path is followed in one. A path is taken apart at its
slashes; each name in turn leads from a directory to something in it. What stands in the way of a
path is given as the reason why a file cannot be read.
-/

namespace RowQuery.CommandLine

/-- Why there is nothing to read at a path. -/
inductive PathFault where
  | missing
  /-- A name that leads on from a file. -/
  | notDirectory
  | denied
  /-- A name or a path that is longer than a file system keeps. -/
  | nameTooLong
  /-- A character of code zero, which would end the path. -/
  | zeroInside
  /-- What the system says, where it is none of these. -/
  | other (reason : String)
deriving DecidableEq

/-- The wording of a fault. -/
def PathFault.message : PathFault → String
  | missing => "No such file or directory (os error 2)"
  | notDirectory => "Not a directory (os error 20)"
  | denied => "Permission denied (os error 13)"
  | nameTooLong => "File name too long (os error 36)"
  | zeroInside => "file name contained an unexpected NUL byte"
  | other reason => reason

/-- What is wrong with a path whatever the files are. -/
def PathFault.ofPath? (path : String) : Option PathFault :=
  if path.toList.contains '\x00' then some zeroInside
  else if path = "" then some missing
  else if 4096 ≤ path.utf8ByteSize then some nameTooLong
  else none

/-- A file with its text, or a directory with what is in it. -/
inductive FileTree where
  | file (text : String)
  | directory (entries : List (String × FileTree))

namespace FileTree

/-- The text of a file; a directory can be opened like a file but has none. -/
def text : FileTree → String
  | file text => text
  | directory _ => ""

/-- A place in a tree: what is there, and the directories around it from the inside out. -/
structure Place where
  tree : FileTree
  around : List FileTree

/-- Where a name leads from a place. -/
def Place.step (p : Place) (name : String) : Except PathFault Place :=
  match p.tree with
  | file _ => .error .notDirectory
  | directory entries =>
    if name = "" || name = "." then .ok p
    else if name = ".." then
      match p.around with
      | [] => .ok p
      | outer :: rest => .ok ⟨outer, rest⟩
    else if 255 < name.utf8ByteSize then .error .nameTooLong
    else
      match entries.find? fun (n, _) => n == name with
      | some (_, tree) => .ok ⟨tree, p.tree :: p.around⟩
      | none => .error .missing

/-- Where a path leads from a place. -/
def Place.follow (p : Place) (path : List Char) : Except PathFault Place :=
  ((Text.splitOn '/' path).map String.ofList).foldlM Place.step p

/-- The text at a path. One that begins with a slash starts at the root of the tree, any other at
the working directory. -/
def read (root : FileTree) (workingDirectory path : String) : Except PathFault String := do
  if let some fault := PathFault.ofPath? path then throw fault
  let top : Place := ⟨root, []⟩
  let start ← if path.toList.head? = some '/' then pure top else top.follow workingDirectory.toList
  return (← start.follow path.toList).tree.text

example : (directory [("a", file "x")]).read "/" "a/b" = .error .notDirectory := rfl

end FileTree

end RowQuery.CommandLine
