import Shaderbox.Files.Tree
import Shaderbox.Log
import Shaderbox.Shader.Config
import Shaderbox.Text.Decoding

/-!
# Reading one shader file

A file is read up to a cap in bytes, and the part that was kept is decoded. One byte more than the
cap is asked for, to tell a file of exactly that size from a longer one; so the cap must leave
room for one more.
-/

namespace Shaderbox

/-- The text of a file, as far as it was kept. -/
structure LoadedSource where
  text : String
  /-- Whether nothing was cut off at the cap. -/
  complete : Bool
  /-- Whether the bytes kept were valid UTF-8. -/
  valid : Bool
deriving DecidableEq

/-- Why a file was not read. -/
inductive LoadFault where
  /-- It could not be opened. -/
  | notFound
  /-- It was opened, but could not be read. -/
  | unreadable
  /-- The cap leaves no room for the byte after it. -/
  | capOverflow
deriving DecidableEq

/-- Read at most `cap` bytes of a file. -/
def loadSource (files : Files) (cap : Nat) (path : Path) : Except LoadFault LoadedSource :=
  match files path with
  | .absent => .error .notFound
  | .unreadable => .error (if sizeMax < cap + 1 then .capOverflow else .unreadable)
  | .file content =>
    if sizeMax < cap + 1 then .error .capOverflow
    else
      let complete := decide (content.size ≤ cap)
      let (text, valid) := Text.decode (if complete then content else content.extract 0 cap)
      .ok ⟨text, complete, valid⟩

/-- What is reported about a file that was not read. -/
def Path.readFailure (path : Path) : String := s!"failed to read \"{path.text}\""

/-- What is logged when reading a file fails. -/
def LoadFault.log? (path : Path) : LoadFault → Option LogRecord
  | .notFound => some ⟨.warn, s!"\"{path.text}\" not found"⟩
  | .unreadable => none
  | .capOverflow => none

/-- What is logged when a file was read. -/
def LoadedSource.log? (path : Path) (source : LoadedSource) : Option LogRecord :=
  if source.valid then none
  else some ⟨.warn, s!"\"{path.text}\" is not valid UTF-8; invalid bytes replaced"⟩

end Shaderbox
