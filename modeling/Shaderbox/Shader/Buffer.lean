import Shaderbox.Abort
import Shaderbox.Shader.Config
import Shaderbox.Text.Extent

/-!
# The source buffer

The expanded source of one stage is kept in a buffer of fixed capacity that is used again for
the next stage. Its content is always replaced, never extended.
-/

namespace Shaderbox

/-- The longest beginning of a text that fits into `limit` bytes. -/
def cutText (limit : Nat) (text : String) : String :=
  String.ofList (Text.prefixWithin limit text.toList)

/-- A text of bounded size. -/
structure SourceBuffer where
  text : String
  capacity : Nat
deriving DecidableEq

namespace SourceBuffer

/-- An empty buffer of the given capacity. -/
def withCapacity (capacity : Nat) : Except Abort SourceBuffer :=
  if capacity ≤ capacityMax then .ok ⟨"", capacity⟩ else .error .capacityOverflow

/-- Empty the buffer. -/
def clear (buffer : SourceBuffer) : SourceBuffer :=
  { buffer with text := "" }

/-- Whether a text would have to be cut. -/
def overflows (buffer : SourceBuffer) (text : String) : Bool :=
  buffer.capacity < text.utf8ByteSize

/-- Replace the content by a text, cut at the capacity. -/
def replace (buffer : SourceBuffer) (text : String) : SourceBuffer :=
  { buffer with text := if buffer.overflows text then cutText buffer.capacity text else text }

end SourceBuffer

end Shaderbox
