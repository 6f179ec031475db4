import Mathlib.Algebra.Order.Group.Multiset
import Mathlib.Algebra.Order.Sub.Basic
import Shaderbox.Graphics.Call

/-!
# Objects of the device, from creation to deletion

A trace is followed with the objects that are alive. Creating an object adds it, deleting it takes
it away, and every call must name living objects only; where one does not, the account breaks off.
So a trace that can be accounted for uses nothing after its deletion and deletes nothing twice, and
what is alive at its end tells what it leaves behind.

Nothing is assumed about the names that the device hands out. A name that is given to two living
objects at once counts twice.
-/

namespace Shaderbox

/-- An object of the device. -/
inductive DeviceObject where
  | shader (id : ShaderId)
  | program (id : ProgramId)
  | vertexArray (id : VertexArrayId)
deriving DecidableEq

/-- The objects that a call names, the one it deletes included. -/
def GraphicsCall.named : GraphicsCall → List DeviceObject
  | .shaderSource shader _ => [.shader shader]
  | .compileShader shader => [.shader shader]
  | .compileStatus shader => [.shader shader]
  | .shaderLog shader => [.shader shader]
  | .deleteShader shader => [.shader shader]
  | .attachShader program shader => [.program program, .shader shader]
  | .linkProgram program => [.program program]
  | .linkStatus program => [.program program]
  | .programLog program => [.program program]
  | .validateProgram program => [.program program]
  | .validateStatus program => [.program program]
  | .deleteProgram program => [.program program]
  | .useProgram (some program) => [.program program]
  | .uniformLocation program _ => [.program program]
  | .bindVertexArray (some array) => [.vertexArray array]
  | .deleteVertexArray array => [.vertexArray array]
  | _ => []

/-- The object that a call deletes, if any. -/
def GraphicsCall.deleted : GraphicsCall → Multiset DeviceObject
  | .deleteShader shader => {.shader shader}
  | .deleteProgram program => {.program program}
  | .deleteVertexArray array => {.vertexArray array}
  | _ => 0

/-- The object that an exchange creates, unless the device refused. -/
def Exchange.created : Exchange Graphics → Multiset DeviceObject
  | ⟨.createShader _, .ok shader⟩ => {.shader shader}
  | ⟨.createProgram, .ok program⟩ => {.program program}
  | ⟨.createVertexArray, .ok array⟩ => {.vertexArray array}
  | _ => 0

/-- A call names what it deletes. -/
theorem GraphicsCall.deleted_le (call : GraphicsCall) {alive : Multiset DeviceObject}
    (h : ∀ object ∈ call.named, object ∈ alive) : call.deleted ≤ alive := by
  unfold GraphicsCall.deleted
  split
  · exact Multiset.singleton_le.mpr (h _ List.mem_cons_self)
  · exact Multiset.singleton_le.mpr (h _ List.mem_cons_self)
  · exact Multiset.singleton_le.mpr (h _ List.mem_cons_self)
  · exact Multiset.zero_le alive

/-- The objects alive behind a trace that begins with the given ones, or nothing if a call of it
names an object that is not alive. -/
def aliveAfter : Multiset DeviceObject → List (Exchange Graphics) → Option (Multiset DeviceObject)
  | alive, [] => some alive
  | alive, exchange :: rest =>
    if ∀ object ∈ exchange.request.named, object ∈ alive then
      aliveAfter (alive - exchange.request.deleted + exchange.created) rest
    else none

/-- All objects created in a trace. -/
def createdIn (trace : List (Exchange Graphics)) : Multiset DeviceObject :=
  (trace.map Exchange.created).sum

/-- All objects deleted in a trace. -/
def deletedIn (trace : List (Exchange Graphics)) : Multiset DeviceObject :=
  (trace.map fun exchange => exchange.request.deleted).sum

@[simp] theorem createdIn_cons (exchange : Exchange Graphics) (rest : List (Exchange Graphics)) :
    createdIn (exchange :: rest) = exchange.created + createdIn rest := by
  simp [createdIn]

@[simp] theorem deletedIn_cons (exchange : Exchange Graphics) (rest : List (Exchange Graphics)) :
    deletedIn (exchange :: rest) = exchange.request.deleted + deletedIn rest := by
  simp [deletedIn]

variable {alive final : Multiset DeviceObject} {trace : List (Exchange Graphics)}

/-- A call is accounted for when it names living objects only. -/
theorem aliveAfter_cons {exchange : Exchange Graphics} {rest : List (Exchange Graphics)}
    (h : ∀ object ∈ exchange.request.named, object ∈ alive) :
    aliveAfter alive (exchange :: rest) =
      aliveAfter (alive - exchange.request.deleted + exchange.created) rest :=
  if_pos h

/-- A trace is followed piece by piece. -/
theorem aliveAfter_append (alive : Multiset DeviceObject) (front back : List (Exchange Graphics)) :
    aliveAfter alive (front ++ back) =
      (aliveAfter alive front).bind fun between => aliveAfter between back := by
  induction front generalizing alive with
  | nil => rfl
  | cons exchange front ih =>
    rw [List.cons_append, aliveAfter, aliveAfter]
    split
    · exact ih _
    · rfl

/-- In a trace that can be accounted for, every object that was alive or is created is deleted or is
still alive in the end, each exactly once. -/
theorem final_add_deletedIn (h : aliveAfter alive trace = some final) :
    final + deletedIn trace = alive + createdIn trace := by
  induction trace generalizing alive with
  | nil =>
    obtain rfl := Option.some.inj h
    rfl
  | cons exchange rest ih =>
    rw [aliveAfter] at h
    split at h
    · rename_i hnamed
      have hdeleted := tsub_add_cancel_of_le (exchange.request.deleted_le hnamed)
      calc
        final + deletedIn (exchange :: rest) =
            final + deletedIn rest + exchange.request.deleted := by
          rw [deletedIn_cons]
          ac_rfl
        _ = alive - exchange.request.deleted + exchange.request.deleted +
            (exchange.created + createdIn rest) := by
          rw [ih h]
          ac_rfl
        _ = alive + createdIn (exchange :: rest) := by rw [hdeleted, createdIn_cons]
    · contradiction

end Shaderbox
