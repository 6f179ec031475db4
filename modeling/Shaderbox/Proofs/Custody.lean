import Shaderbox.Proofs.DeviceTrace
import Shaderbox.Proofs.Ownership
import Shaderbox.Proofs.SceneHistory

/-!
# Objects in the custody of a program

A program begins with some objects of the device and has others when it comes to its result. Its
trace is accounted for next to whatever else is alive, so what others own is not touched, and
programs in sequence hand their objects on. Objects come into custody by being created and leave it
by being deleted.
-/

namespace Shaderbox

open Interaction

variable {α β : Type} {before : Multiset DeviceObject} {after : α → Multiset DeviceObject}

/-- Whether a program that begins with some objects always comes to a result and has others then,
whatever is alive besides. -/
def Custody (before : Multiset DeviceObject) (program : Action α)
    (after : α → Multiset DeviceObject) : Prop :=
  Ensures program fun trace result => ∀ others,
    aliveAfter (before + others) trace = some (after result + others)

theorem Custody.neverAborts {program : Action α} (h : Custody before program after) :
    program.NeverAborts :=
  Ensures.neverAborts h

/-- What a program has in custody is alive when it has come to a result. -/
theorem Custody.aliveAfter_eq {program : Action α} (h : Custody before program after)
    {exchanges : List (Exchange (Effects Graphics))} {result : α}
    (hyields : Yields program exchanges (.ok result)) :
    aliveAfter before (deviceTrace exchanges) = some (after result) := by
  have haccount := h.of_ok hyields 0
  rwa [add_zero, add_zero] at haccount

/-- A program keeps custody of objects if all that it may do to the device can be accounted for. -/
theorem Ensures.custody {program : Action α} {spec : List (Exchange Graphics) → α → Prop}
    (h : Ensures program spec)
    (haccount : ∀ trace result, spec trace result → ∀ others,
      aliveAfter (before + others) trace = some (after result + others)) :
    Custody before program after :=
  h.mono haccount

theorem custody_done {result : α} (h : before = after result) :
    Custody before (.done result) after := by
  refine ensures_done fun others => ?_
  rw [h]
  rfl

/-- The second of two programs takes over what the first one leaves. -/
theorem Custody.bind_of_returns {program : Action β} {next : β → Action α}
    {between : β → Multiset DeviceObject} {kind : β → Prop} (h : Custody before program between)
    (hkind : Returns program kind)
    (hnext : ∀ result, kind result → Custody (between result) (next result) after) :
    Custody before (program.bind next) after := by
  intro exchanges outcome hyields
  rcases yields_bind_iff.mp hyields with
    ⟨cause, hfirst, -⟩ | ⟨front, result, back, rfl, hfirst, hrest⟩
  · exact absurd hfirst (h.neverAborts _ _)
  · have hfront := h.of_ok hfirst
    obtain ⟨last, rfl, hback⟩ := hnext result (hkind _ _ hfirst) _ _ hrest
    refine ⟨last, rfl, fun others => ?_⟩
    rw [deviceTrace_append, aliveAfter_append, hfront, Option.bind_some, hback]

theorem Custody.bind {program : Action β} {next : β → Action α}
    {between : β → Multiset DeviceObject} (h : Custody before program between)
    (hnext : ∀ result, Custody (between result) (next result) after) :
    Custody before (program.bind next) after := by
  have hanything : Returns program fun _ => True := fun _ _ _ => trivial
  exact h.bind_of_returns hanything fun result _ => hnext result

/-- What is alive besides may be put into the custody of a program, which leaves it as it is. -/
theorem Custody.frame {program : Action α} (h : Custody before program after)
    (others : Multiset DeviceObject) :
    Custody (before + others) program fun result => after result + others := by
  refine h.mono fun trace result haccount more => ?_
  rw [add_assoc, add_assoc]
  exact haccount (others + more)

/-- The first of two programs takes over a part of the objects. -/
theorem Custody.bind_part {program : Action β} {next : β → Action α}
    {part : Multiset DeviceObject} {between : β → Multiset DeviceObject}
    (h : Custody part program between) (others : Multiset DeviceObject)
    (hparts : before = part + others)
    (hnext : ∀ result, Custody (between result + others) (next result) after) :
    Custody before (program.bind next) after := by
  rw [hparts]
  exact (h.frame others).bind hnext

theorem custody_log_bind {level : LogLevel} {message : String} {next : Unit → Action α}
    (h : Custody before (next ()) after) :
    Custody before ((Action.log level message).bind next) after :=
  ensures_log_bind h

theorem custody_log_when {condition : Bool} {level : LogLevel} {message : String}
    {next : Unit → Action α} (h : Custody before (next ()) after) :
    Custody before (if condition then (Action.log level message).bind next else next ()) after :=
  ensures_log_when h

section Calls

/-- Whether a call neither creates nor deletes anything. -/
def GraphicsCall.keepsObjects : GraphicsCall → Bool
  | .createShader _ => false
  | .createProgram => false
  | .createVertexArray => false
  | .deleteShader _ => false
  | .deleteProgram _ => false
  | .deleteVertexArray _ => false
  | _ => true

/-- A call that neither creates nor deletes anything leaves alive what is alive. -/
theorem aliveAfter_of_keepsObjects {call : GraphicsCall} {answer : call.Answer}
    {rest : List (Exchange Graphics)} {alive : Multiset DeviceObject}
    (hkeeps : call.keepsObjects = true) (hnamed : ∀ object ∈ call.named, object ∈ alive) :
    aliveAfter alive (⟨call, answer⟩ :: rest) = aliveAfter alive rest := by
  have hdeleted : call.deleted = 0 := by
    cases call <;> first | rfl | contradiction
  have hcreated : Exchange.created ⟨call, answer⟩ = 0 := by
    cases call <;> first | rfl | contradiction
  rw [aliveAfter_cons hnamed]
  dsimp only
  rw [hdeleted, hcreated, tsub_zero, add_zero]

/-- A call may name what is in custody. -/
theorem custody_call_bind {call : GraphicsCall} {next : call.Answer → Action α}
    (hkeeps : call.keepsObjects = true) (hnamed : ∀ object ∈ call.named, object ∈ before)
    (h : ∀ answer, Custody before (next answer) after) :
    Custody before ((Action.graphics call).bind next) after := by
  refine ensures_graphics_bind fun answer => ?_
  refine (h answer).mono fun trace result haccount others => ?_
  have halive : ∀ object ∈ call.named, object ∈ before + others :=
    fun object hobject => Multiset.mem_add.mpr (.inl (hnamed object hobject))
  rw [aliveAfter_of_keepsObjects hkeeps halive]
  exact haccount others

/-- A call that names no object may always be made. -/
theorem custody_plain_bind {call : GraphicsCall} {next : call.Answer → Action α}
    (hkeeps : call.keepsObjects = true) (hnamed : call.named = [])
    (h : ∀ answer, Custody before (next answer) after) :
    Custody before ((Action.graphics call).bind next) after := by
  refine custody_call_bind hkeeps (fun object hobject => ?_) h
  rw [hnamed] at hobject
  contradiction

theorem custody_plain {call : GraphicsCall} (hkeeps : call.keepsObjects = true)
    (hnamed : call.named = []) : Custody before (Action.graphics call) fun _ => before :=
  custody_plain_bind hkeeps hnamed fun _ => custody_done rfl

/-- Setting a uniform names no object, and may be left out. -/
theorem custody_set (table : UniformTable) (semantic : String)
    {call : UniformLocation → Action Unit}
    (h : ∀ location, Custody before (call location) fun _ => before) :
    Custody before (table.set semantic call) fun _ => before := by
  unfold UniformTable.set
  split
  · exact h _
  · exact custody_done rfl

theorem custody_setSingle (table : UniformTable) (semantic : String) (value : Float32) :
    Custody before (table.setSingle semantic value) fun _ => before :=
  custody_set table semantic fun _ => custody_plain rfl rfl

theorem custody_setVec4 (table : UniformTable) (semantic : String) (value : Vec4) :
    Custody before (table.setVec4 semantic value) fun _ => before :=
  custody_set table semantic fun _ => custody_plain rfl rfl

theorem custody_setMat4 (table : UniformTable) (semantic : String) (value : Mat4) :
    Custody before (table.setMat4 semantic value) fun _ => before :=
  custody_set table semantic fun _ => custody_plain rfl rfl

/-- A deletion ends the custody of its object. -/
theorem custody_delete_bind {call : GraphicsCall} {next : call.Answer → Action α}
    {object : DeviceObject} (hnamed : call.named = [object]) (hdeleted : call.deleted = {object})
    (hcreated : ∀ answer, Exchange.created ⟨call, answer⟩ = 0)
    (h : ∀ answer, Custody before (next answer) after) :
    Custody ({object} + before) ((Action.graphics call).bind next) after := by
  refine ensures_graphics_bind fun answer => ?_
  refine (h answer).mono fun trace result haccount others => ?_
  rw [aliveAfter_cons (by simp [hnamed])]
  dsimp only
  rw [hdeleted, hcreated, add_zero, add_assoc, add_tsub_cancel_left]
  exact haccount others

theorem custody_delete {call : GraphicsCall} {object : DeviceObject}
    (hnamed : call.named = [object]) (hdeleted : call.deleted = {object})
    (hcreated : ∀ answer, Exchange.created ⟨call, answer⟩ = 0) :
    Custody {object} (Action.graphics call) fun _ => 0 := by
  rw [← add_zero ({object} : Multiset DeviceObject)]
  exact custody_delete_bind hnamed hdeleted hcreated fun _ => custody_done rfl

end Calls

end Shaderbox
