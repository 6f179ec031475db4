/-!
# Paths as written, and paths as compared

A path is kept exactly as it was written and is printed that way. Two paths are compared by
their components, in which repeated and trailing slashes and every `.` but a leading one do not
count, while a leading `.` and every `..` do.
-/

namespace Shaderbox

/-- A path as it was written. -/
structure Path where
  text : String
deriving DecidableEq, Inhabited

namespace Path

/-- One component of a path. -/
inductive Component where
  | root
  | current
  | parent
  | normal (name : String)
deriving DecidableEq

/-- The pieces between slashes, empty ones included. -/
def segments (text : List Char) : List (List Char) := text.splitOn '/'

/-- The component that a segment past the beginning stands for, if any. -/
def Component.ofSegment? (segment : List Char) : Option Component :=
  if segment = [] ∨ segment = ['.'] then none
  else if segment = ['.', '.'] then some .parent
  else some (.normal (String.ofList segment))

/-- Whether the path begins at the root. -/
def isAbsolute (path : Path) : Bool :=
  path.text.toList.head? = some '/'

/-- What the very beginning of a path contributes: the root, or a leading `.`. -/
def beginning (path : Path) : List Component :=
  if path.isAbsolute then [.root]
  else if (segments path.text.toList).head? = some ['.'] then [.current]
  else []

/-- The components of a path, in order. -/
def components (path : Path) : List Component :=
  path.beginning ++ (segments path.text.toList).filterMap Component.ofSegment?

/-- Whether two spellings name the same path. -/
def same (path other : Path) : Bool :=
  path.components = other.components

/-- Place `name` under `base`. An absolute name stands alone; otherwise a slash is written between
the two unless the base is empty or ends in one. -/
def join (base name : Path) : Path :=
  if name.isAbsolute then name
  else match base.text.toList.getLast? with
    | none => name
    | some last => if last = '/' then ⟨base.text ++ name.text⟩ else ⟨base.text ++ "/" ++ name.text⟩

/-- The last component, when it is a plain name. -/
def fileName? (path : Path) : Option String :=
  match path.components.getLast? with
  | some (.normal name) => some name
  | _ => none

/-- Whether a component stays where it is or goes down. -/
def Component.staysInside : Component → Bool
  | .normal _ => true
  | .current => true
  | .root => false
  | .parent => false

/-- Whether the path, placed under a directory, stays under it. -/
def staysInside (path : Path) : Bool :=
  path.components.all Component.staysInside

end Path

end Shaderbox
