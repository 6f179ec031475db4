import Shaderbox.Graphics.Handle

/-!
# Uniforms

A table keeps, for one program, where it holds the uniforms that the engine sets, under names
that say what they are for. A uniform that the program does not have is not an error: compilers
drop what is not used, and setting it is left out.
-/

namespace Shaderbox

/-- What a uniform is for, and its name in the program's source. -/
structure UniformBinding where
  semantic : String
  name : String
deriving DecidableEq

/-- A binding together with the location found for it, if any. -/
structure UniformEntry where
  binding : UniformBinding
  location : Option UniformLocation
deriving DecidableEq

/-- The uniforms of one program, looked up once after it was linked. -/
structure UniformTable where
  entries : List UniformEntry
deriving DecidableEq

/-- Look up a uniform, and warn when the program does not have it. -/
def findUniform (program : ProgramHandle) (name : String) : Action (Option UniformLocation) := do
  let location ← Action.graphics (.uniformLocation program.id name)
  if location.isNone then
    Action.log .warn s!"uniform \"{name}\" not found in program \"{program.label}\""
  return location

/-- Look up every binding in order. -/
def findUniforms (program : ProgramHandle) : List UniformBinding → Action (List UniformEntry)
  | [] => return []
  | binding :: rest => do
    let location ← findUniform program binding.name
    return ⟨binding, location⟩ :: (← findUniforms program rest)

namespace UniformTable

/-- Look up the uniforms of a program. -/
def resolve (program : ProgramHandle) (bindings : List UniformBinding) : Action UniformTable :=
  return ⟨← findUniforms program bindings⟩

/-- The first entry for a purpose. -/
def entry? (table : UniformTable) (semantic : String) : Option UniformEntry :=
  table.entries.find? (·.binding.semantic == semantic)

/-- The location for a purpose, if there is an entry and the program has the uniform. -/
def get? (table : UniformTable) (semantic : String) : Option UniformLocation :=
  (table.entry? semantic).bind (·.location)

/-- Names that were looked up and not found. -/
def missing (table : UniformTable) : List String :=
  (table.entries.filter (·.location.isNone)).map (·.binding.name)

/-- Set a uniform by the given call, or do nothing when the program does not have it. -/
def set (table : UniformTable) (semantic : String) (call : UniformLocation → Action Unit) :
    Action Unit :=
  match table.get? semantic with
  | some location => call location
  | none => .done ()

/-- Set a number. -/
def setSingle (table : UniformTable) (semantic : String) (value : Float32) : Action Unit :=
  table.set semantic fun location => Action.graphics (.setUniformSingle location value)

/-- Set four numbers. -/
def setVec4 (table : UniformTable) (semantic : String) (value : Vec4) : Action Unit :=
  table.set semantic fun location => Action.graphics (.setUniformVec4 location value)

/-- Set a matrix. -/
def setMat4 (table : UniformTable) (semantic : String) (value : Mat4) : Action Unit :=
  table.set semantic fun location => Action.graphics (.setUniformMat4 location value)

end UniformTable

end Shaderbox
