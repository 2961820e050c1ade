import Symbolication.Files

/-! A file system held in memory. A path is walked from the working directory, name by name. An
absolute path leaves the tree, and so does a path that climbs above the working directory. Outside
of the tree there are directories on the way to it and nothing else. -/

namespace Symbolication

/-- A file of a tree, or a directory that may be empty. -/
inductive FileTree.Node where
  | file (content : Bytes)
  | directory

/-- Files and directories by the names on the way to them. The directories on the way need not be
listed. -/
structure FileTree where
  nodes : List (List String × FileTree.Node)

namespace FileTree

/-- The names in a path. An empty name and `.` stay where they are. -/
def names (path : String) : List String := (path.toList.splitOn '/').map String.ofList

/-- A path as the names below the working directory. -/
def place (path : String) : List String := (names path).filter fun name => name != "" && name != "."

def ofList (files : List (String × Node)) : FileTree :=
  ⟨files.map fun (path, node) => (place path, node)⟩

/-- The most bytes in a name, and in a path. -/
def nameLimit : Nat := 255

def pathLimit : Nat := 4095

def node? (tree : FileTree) (place : List String) : Option Node :=
  match tree.nodes.find? (·.1 = place) with
  | some (_, node) => some node
  | none =>
    if place.isEmpty || tree.nodes.any (fun (other, _) => place.isPrefixOf other) then
      some .directory
    else none

/-- Walks on from a directory outside of the tree. -/
def walkOutside : List String → Entry
  | [] => .directory
  | name :: rest =>
    if name ∈ ["", ".", ".."] then walkOutside rest
    else if nameLimit < name.utf8ByteSize then .unreachable .nameTooLong
    else .unreachable .notFound

/-- Walks on from a place. -/
def walk (tree : FileTree) (place : List String) : List String → Entry
  | [] =>
    match tree.node? place with
    | some (.file content) => .file content
    | some .directory => .directory
    | none => .unreachable .notFound
  | name :: rest =>
    match tree.node? place with
    | some .directory =>
      if name = "" ∨ name = "." then walk tree place rest
      else if name = ".." then
        if place.isEmpty then walkOutside rest else walk tree place.dropLast rest
      else if nameLimit < name.utf8ByteSize then .unreachable .nameTooLong
      else walk tree (place ++ [name]) rest
    | some (.file _) => .unreachable .notDirectory
    | none => .unreachable .notFound

def entry (tree : FileTree) : Files := fun path =>
  if path = "" then .unreachable .notFound
  else if pathLimit < path.utf8ByteSize then .unreachable .nameTooLong
  else
    match names path with
    | "" :: rest => walkOutside rest
    | names => walk tree [] names

end FileTree

end Symbolication
