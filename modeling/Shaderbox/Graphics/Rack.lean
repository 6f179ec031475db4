import Shaderbox.Graphics.Handle

/-!
# A rack of owned objects

A client that holds any number of objects keeps them in numbered slots. A slot is empty once its
object was released or consumed, and from the start when the creation was refused. What is left
in the end is released in the order of the slots.
-/

namespace Shaderbox

/-- Numbered slots for owned objects. -/
structure Rack where
  slots : List (Option Handle)
deriving DecidableEq

/-- Something that a client does with its objects. -/
inductive RackStep where
  | createShader (stage : Stage)
  | createProgram (label : String)
  | createVertexArray
  | attach (program shader : Nat)
  | release (slot : Nat)
  | bind (slot : Nat)
  | unbind (slot : Nat)
deriving DecidableEq

/-- What became of a step. -/
inductive RackAnswer where
  | created (slot : Nat)
  | refused (reason : String)
  | finished
  /-- A slot held nothing of the kind that the step is for. -/
  | gone
deriving DecidableEq

namespace Rack

/-- No slots. -/
def empty : Rack := ⟨[]⟩

/-- The object in a slot. -/
def get? (rack : Rack) (slot : Nat) : Option Handle :=
  (rack.slots[slot]?).join

/-- The program in a slot. -/
def program? (rack : Rack) (slot : Nat) : Option ProgramHandle :=
  match rack.get? slot with
  | some (.program handle) => some handle
  | _ => none

/-- The shader in a slot. -/
def shader? (rack : Rack) (slot : Nat) : Option ShaderHandle :=
  match rack.get? slot with
  | some (.shader handle) => some handle
  | _ => none

/-- Empty a slot. -/
def take (rack : Rack) (slot : Nat) : Rack :=
  ⟨rack.slots.set slot none⟩

/-- Add a slot for the outcome of a creation. -/
def add (rack : Rack) : Except String Handle → RackAnswer × Rack
  | .ok handle => (.created rack.slots.length, ⟨rack.slots ++ [some handle]⟩)
  | .error reason => (.refused reason, ⟨rack.slots ++ [none]⟩)

/-- Carry out a step. -/
def perform (rack : Rack) : RackStep → Action (RackAnswer × Rack)
  | .createShader stage => return rack.add ((← ShaderHandle.create stage).map .shader)
  | .createProgram label => return rack.add ((← ProgramHandle.create label).map .program)
  | .createVertexArray => return rack.add ((← VertexArrayHandle.create).map .vertexArray)
  | .attach program shader =>
    match rack.program? program, rack.shader? shader with
    | some program, some handle => do
      program.attach handle
      return (.finished, rack.take shader)
    | _, _ => return (.gone, rack)
  | .release slot =>
    match rack.get? slot with
    | some handle => do
      handle.release
      return (.finished, rack.take slot)
    | none => return (.gone, rack)
  | .bind slot =>
    match rack.get? slot with
    | some (.program handle) => do
      handle.bind
      return (.finished, rack)
    | some (.vertexArray handle) => do
      handle.bind
      return (.finished, rack)
    | _ => return (.gone, rack)
  | .unbind slot =>
    match rack.get? slot with
    | some (.vertexArray handle) => do
      handle.unbind
      return (.finished, rack)
    | _ => return (.gone, rack)

/-- Release what the slots hold, in order. -/
def releaseSlots : List (Option Handle) → Action Unit
  | [] => .done ()
  | none :: rest => releaseSlots rest
  | some handle :: rest => handle.release.bind fun _ => releaseSlots rest

/-- Release everything. -/
def releaseAll (rack : Rack) : Action Unit :=
  releaseSlots rack.slots

end Rack

end Shaderbox
