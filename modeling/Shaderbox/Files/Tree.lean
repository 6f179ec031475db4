import Shaderbox.Files.Path

/-!
# Files and what opening a path finds

`Files` is all that the shader pipeline knows of a file system: what opening a path finds.
`FileTree` is a concrete one, a working directory with everything in it. A path is walked segment
by segment: each segment but the last must be a directory, and so must the last if a slash
follows it. What lies above the working directory, or at the root, holds nothing.
-/

namespace Shaderbox

/-- What opening a path finds: nothing that can be opened, something that opens but cannot be
read, or a file with its bytes. -/
inductive Opening where
  | absent
  | unreadable
  | file (content : ByteArray)

/-- What opening each path finds. -/
abbrev Files := Path → Opening

/-- A node of a file tree. -/
inductive FileNode where
  | directory
  | file (content : ByteArray)

/-- A working directory: the nodes below it by their names from the top. -/
structure FileTree where
  nodes : List (List String × FileNode)

namespace FileTree

/-- Longest name of one node, in bytes. -/
def maxNameSize : Nat := 255

/-- Longest path that can be opened, in bytes. -/
def maxPathSize : Nat := 4095

/-- An empty working directory. -/
def empty : FileTree := ⟨[]⟩

/-- Where a walk stands: at a node of the tree, or outside the working directory. -/
inductive Place where
  | inside (names : List String)
  | outside

/-- The node with the given names. -/
def node? (tree : FileTree) (names : List String) : Option FileNode :=
  if names.isEmpty then some .directory else tree.nodes.lookup names

/-- The node at a place; the surroundings of the working directory are directories. -/
def nodeAt? (tree : FileTree) : Place → Option FileNode
  | .inside names => tree.node? names
  | .outside => some .directory

/-- Follow one segment from a directory. -/
def follow (tree : FileTree) (place : Place) (segment : List Char) : Option Place :=
  match tree.nodeAt? place with
  | some .directory =>
    if segment = [] ∨ segment = ['.'] then some place
    else match place with
      | .outside => if segment = ['.', '.'] then some .outside else none
      | .inside names =>
        if segment = ['.', '.'] then
          some (if names.isEmpty then .outside else .inside names.dropLast)
        else
          let names := names ++ [String.ofList segment]
          if (String.ofList segment).utf8ByteSize ≤ maxNameSize ∧ (tree.node? names).isSome then
            some (.inside names)
          else none
  | _ => none

/-- What opening a path finds in the tree. -/
def files (tree : FileTree) : Files := fun path =>
  let text := path.text.toList
  if text.isEmpty ∨ text.contains '\x00' ∨ maxPathSize < path.text.utf8ByteSize then .absent
  else
    let origin := if path.isAbsolute then Place.outside else Place.inside []
    match (Path.segments text).foldlM tree.follow origin >>= tree.nodeAt? with
    | none => .absent
    | some .directory => .unreadable
    | some (.file content) => .file content

/-- Follow components by name: where they lead, and the nodes passed on the way, the last first. -/
def route (path : Path) : List String × List (List String) :=
  path.components.foldl
    (fun (here, passed) component =>
      match component with
      | .normal name => (here ++ [name], (here ++ [name]) :: passed)
      | .parent => (here.dropLast, passed)
      | _ => (here, passed))
    ([], [])

/-- Put a node in place, making the directories that lead to it. -/
def write (tree : FileTree) (path : Path) (node : FileNode) : FileTree :=
  let (target, passed) := route path
  let missing := passed.filter fun directory =>
    directory != target && (tree.node? directory).isNone
  ⟨(target, node) :: missing.map (·, .directory) ++ tree.nodes.filter (·.1 != target)⟩

/-- Remove a node and everything below it. -/
def remove (tree : FileTree) (path : Path) : FileTree :=
  ⟨tree.nodes.filter fun entry => !(route path).1.isPrefixOf entry.1⟩

end FileTree

end Shaderbox
