import Shaderbox.Files.Path
import Shaderbox.Graphics.Stage

/-!
# What the shader pipeline reports

Findings do not stop a build. Those about include directives say what became of the source text;
compile, link and validation failures are the ones that make a build fail.
-/

namespace Shaderbox

/-- One finding of the shader pipeline. -/
inductive Finding where
  /-- A file could not be opened and expanded to nothing. -/
  | missingFile (path : Path)
  /-- A directive without a closing quote, or with an unacceptable name, was left in place. -/
  | malformedInclude (path : Path) (line : Nat)
  /-- A file includes itself or the top-level file; its expansion stopped there. -/
  | selfInclude (path : Path) (line : Nat)
  /-- The include budget ran out; directives were left in place. -/
  | tooManyIncludes (path : Path)
  /-- The expanded text was cut to this many bytes. -/
  | outputTruncated (path : Path) (capacity : Nat)
  | compileFailed (stage : Stage) (name log : String)
  | linkFailed (name log : String)
  | validateFailed (name : String)
deriving DecidableEq

namespace Finding

/-- Whether the finding makes a build fail. -/
def failsBuild : Finding → Bool
  | .compileFailed .. => true
  | .linkFailed .. => true
  | .validateFailed .. => true
  | _ => false

/-- The finding in words. -/
def message : Finding → String
  | .missingFile path => s!"\"{path.text}\" not found"
  | .malformedInclude path line => s!"{path.text}:{line}: malformed #include directive"
  | .selfInclude path line => s!"{path.text}:{line}: file includes itself"
  | .tooManyIncludes path => s!"too many includes found while resolving \"{path.text}\""
  | .outputTruncated path capacity =>
    s!"expanded source of \"{path.text}\" exceeds {capacity} bytes and was truncated"
  | .compileFailed stage name log => s!"{name} ({stage.label} shader): \n{log}"
  | .linkFailed name log => s!"program \"{name}\" failed to link: \n{log}"
  | .validateFailed name => s!"program \"{name}\" failed to be validated"

/-- Whether two findings say the same, however their paths are spelled. -/
def same : Finding → Finding → Bool
  | .missingFile path, .missingFile other => path.same other
  | .malformedInclude path line, .malformedInclude other otherLine =>
    path.same other && line == otherLine
  | .selfInclude path line, .selfInclude other otherLine => path.same other && line == otherLine
  | .tooManyIncludes path, .tooManyIncludes other => path.same other
  | .outputTruncated path capacity, .outputTruncated other otherCapacity =>
    path.same other && capacity == otherCapacity
  | finding, other => finding = other

end Finding

end Shaderbox
