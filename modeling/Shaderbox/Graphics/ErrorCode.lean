/-!
# Error codes of the graphics library
-/

namespace Shaderbox.ErrorCode

/-- No error is pending. -/
def none : Nat := 0

/-- Symbolic name of an error code. -/
def name : Nat → String
  | 0 => "GL_NO_ERROR"
  | 0x500 => "GL_INVALID_ENUM"
  | 0x501 => "GL_INVALID_VALUE"
  | 0x502 => "GL_INVALID_OPERATION"
  | 0x503 => "GL_STACK_OVERFLOW"
  | 0x504 => "GL_STACK_UNDERFLOW"
  | 0x505 => "GL_OUT_OF_MEMORY"
  | 0x506 => "GL_INVALID_FRAMEBUFFER_OPERATION"
  | _ => "unknown GL error"

end Shaderbox.ErrorCode
