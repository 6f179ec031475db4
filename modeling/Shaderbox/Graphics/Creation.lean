/-!
# Refused creations
-/

namespace Shaderbox

/-- The kinds of object that a device creates. -/
inductive ObjectKind where
  | shader
  | program
  | vertexArray
deriving DecidableEq, Repr

/-- The kind in messages. -/
def ObjectKind.label : ObjectKind → String
  | .shader => "shader"
  | .program => "program"
  | .vertexArray => "vertex array"

/-- The device refused to create an object. -/
structure CreateError where
  kind : ObjectKind
  reason : String
deriving DecidableEq

/-- The refusal in words. -/
def CreateError.message (error : CreateError) : String :=
  "failed to create " ++ error.kind.label ++ ": " ++ error.reason

end Shaderbox
