import Shaderbox.Graphics.Rack
import Shaderbox.Proofs.Custody
import Shaderbox.Simulation.World

/-!
# The life of the objects in a rack

A client takes steps with its slots one after the other and releases what is left. Whatever it does
and whatever the device refuses, the objects alive between two steps are those in the slots: a
creation fills a new slot or leaves it empty, attaching and releasing empty the slot whose object
they delete. An empty slot stays empty, and a step that needs what was in it does nothing. So each
object is deleted exactly once, at the end at the latest.
-/

namespace Shaderbox

open Interaction

/-- The object that a handle owns. -/
def Handle.object : Handle → DeviceObject
  | .shader handle => .shader handle.id
  | .program handle => .program handle.id
  | .vertexArray handle => .vertexArray handle.id

/-- The call that releases a handle. -/
def Handle.deletion : Handle → Exchange Graphics
  | .shader handle => ⟨.deleteShader handle.id, ()⟩
  | .program handle => ⟨.deleteProgram handle.id, ()⟩
  | .vertexArray handle => ⟨.deleteVertexArray handle.id, ()⟩

/-- The slots that must hold something for a step. -/
def RackStep.slots : RackStep → List Nat
  | .createShader _ => []
  | .createProgram _ => []
  | .createVertexArray => []
  | .attach program shader => [program, shader]
  | .release slot => [slot]
  | .bind slot => [slot]
  | .unbind slot => [slot]

/-- Whether a step asks the device for an object, and what handle it then has. -/
inductive RackStep.Creates : RackStep → Exchange Graphics → Except String Handle → Prop where
  | shader (stage : Stage) (answer : Except String ShaderId) :
      Creates (.createShader stage) ⟨.createShader stage, answer⟩
        (answer.map fun id => .shader ⟨id, stage⟩)
  | program (label : String) (answer : Except String ProgramId) :
      Creates (.createProgram label) ⟨.createProgram, answer⟩
        (answer.map fun id => .program ⟨id, label⟩)
  | vertexArray (answer : Except String VertexArrayId) :
      Creates .createVertexArray ⟨.createVertexArray, answer⟩
        (answer.map fun id => .vertexArray ⟨id⟩)

namespace Rack

/-- The objects that slots own. -/
def ownedIn (slots : List (Option Handle)) : Multiset DeviceObject :=
  (slots.map fun handle? => handle?.elim 0 fun handle => {handle.object}).sum

/-- The objects of a rack. -/
def objects (rack : Rack) : Multiset DeviceObject := ownedIn rack.slots

/-- What a step does to the device, what it answers and which slots it leaves. -/
inductive Does (rack : Rack) : RackStep → List (Exchange Graphics) → RackAnswer → Rack → Prop where
  | created {step : RackStep} {exchange : Exchange Graphics} {outcome : Except String Handle}
      (h : step.Creates exchange outcome) :
      Does rack step [exchange] (rack.add outcome).1 (rack.add outcome).2
  | attached {program shader : Nat} {handle : ProgramHandle} {stage : ShaderHandle}
      (hprogram : rack.program? program = some handle)
      (hshader : rack.shader? shader = some stage) :
      Does rack (.attach program shader)
        [⟨.attachShader handle.id stage.id, ()⟩, (Handle.shader stage).deletion]
        .finished (rack.take shader)
  | released {slot : Nat} {handle : Handle} (h : rack.get? slot = some handle) :
      Does rack (.release slot) [handle.deletion] .finished (rack.take slot)
  | boundProgram {slot : Nat} {handle : ProgramHandle}
      (h : rack.get? slot = some (.program handle)) :
      Does rack (.bind slot) [⟨.useProgram (some handle.id), ()⟩] .finished rack
  | boundVertexArray {slot : Nat} {handle : VertexArrayHandle}
      (h : rack.get? slot = some (.vertexArray handle)) :
      Does rack (.bind slot) [⟨.bindVertexArray (some handle.id), ()⟩] .finished rack
  | unbound {slot : Nat} {handle : VertexArrayHandle}
      (h : rack.get? slot = some (.vertexArray handle)) :
      Does rack (.unbind slot) [⟨.bindVertexArray none, ()⟩] .finished rack
  | gone {step : RackStep} (h : rack.perform step = .done (.gone, rack)) :
      Does rack step [] .gone rack

section Step

variable {rack : Rack} {slot : Nat}

theorem get?_eq_some_iff {handle : Handle} :
    rack.get? slot = some handle ↔ rack.slots[slot]? = some (some handle) :=
  Option.join_eq_some_iff

theorem get?_of_program? {handle : ProgramHandle} (h : rack.program? slot = some handle) :
    rack.get? slot = some (.program handle) := by
  unfold program? at h
  split at h
  · rename_i other hother
    obtain rfl := Option.some.inj h
    exact hother
  · contradiction

theorem get?_of_shader? {handle : ShaderHandle} (h : rack.shader? slot = some handle) :
    rack.get? slot = some (.shader handle) := by
  unfold shader? at h
  split at h
  · rename_i other hother
    obtain rfl := Option.some.inj h
    exact hother
  · contradiction

/-- A step that does nothing is made by no call. -/
theorem ensures_gone {step : RackStep} (h : rack.perform step = .done (.gone, rack)) :
    Ensures (rack.perform step) fun trace answer => rack.Does step trace answer.1 answer.2 := by
  rw [h]
  exact ensures_done (.gone h)

/-- A step always comes to an answer, and does what it is for or nothing. -/
theorem ensures_perform (rack : Rack) (step : RackStep) :
    Ensures (rack.perform step) fun trace answer => rack.Does step trace answer.1 answer.2 := by
  cases step with
  | createShader stage =>
    refine ensures_graphics_bind fun answer => ensures_done ?_
    cases answer <;> exact .created (.shader stage _)
  | createProgram label =>
    refine ensures_graphics_bind fun answer => ensures_done ?_
    cases answer <;> exact .created (.program label _)
  | createVertexArray =>
    refine ensures_graphics_bind fun answer => ensures_done ?_
    cases answer <;> exact .created (.vertexArray _)
  | attach program shader =>
    cases hprogram : rack.program? program with
    | none => exact ensures_gone (by simp [perform, hprogram])
    | some handle =>
      cases hshader : rack.shader? shader with
      | none => exact ensures_gone (by simp [perform, hprogram, hshader])
      | some stage =>
        simp only [perform, hprogram, hshader]
        refine ensures_graphics_bind fun _ => ensures_graphics_bind fun _ => ensures_done ?_
        exact .attached hprogram hshader
  | release slot =>
    cases hslot : rack.get? slot with
    | none => exact ensures_gone (by simp [perform, hslot])
    | some handle =>
      simp only [perform, hslot]
      cases handle <;> exact ensures_graphics_bind fun _ => ensures_done (.released hslot)
  | bind slot =>
    cases hslot : rack.get? slot with
    | none => exact ensures_gone (by simp [perform, hslot])
    | some handle =>
      cases handle with
      | shader handle => exact ensures_gone (by simp [perform, hslot])
      | program handle =>
        simp only [perform, hslot]
        exact ensures_graphics_bind fun _ => ensures_done (.boundProgram hslot)
      | vertexArray handle =>
        simp only [perform, hslot]
        exact ensures_graphics_bind fun _ => ensures_done (.boundVertexArray hslot)
  | unbind slot =>
    cases hslot : rack.get? slot with
    | none => exact ensures_gone (by simp [perform, hslot])
    | some handle =>
      cases handle with
      | shader handle => exact ensures_gone (by simp [perform, hslot])
      | program handle => exact ensures_gone (by simp [perform, hslot])
      | vertexArray handle =>
        simp only [perform, hslot]
        exact ensures_graphics_bind fun _ => ensures_done (.unbound hslot)

end Step

section Account

variable {rack : Rack}

@[simp] theorem ownedIn_cons (handle? : Option Handle) (rest : List (Option Handle)) :
    ownedIn (handle? :: rest) = (handle?.elim 0 fun handle => {handle.object}) + ownedIn rest := by
  simp [ownedIn]

/-- Emptying a slot takes its object out of the account. -/
theorem ownedIn_set {slots : List (Option Handle)} {slot : Nat} {handle : Handle}
    (h : slots[slot]? = some (some handle)) :
    ownedIn slots = {handle.object} + ownedIn (slots.set slot none) := by
  induction slots generalizing slot with
  | nil => simp at h
  | cons first rest ih =>
    cases slot with
    | zero =>
      obtain rfl : first = some handle := by simpa using h
      simp
    | succ slot =>
      have hrest : ownedIn rest = {handle.object} + ownedIn (rest.set slot none) :=
        ih (by simpa using h)
      rw [List.set_cons_succ, ownedIn_cons, ownedIn_cons, hrest, add_left_comm]

theorem objects_take {slot : Nat} {handle : Handle} (h : rack.get? slot = some handle) :
    rack.objects = {handle.object} + (rack.take slot).objects :=
  ownedIn_set (get?_eq_some_iff.mp h)

theorem object_mem_objects {slot : Nat} {handle : Handle} (h : rack.get? slot = some handle) :
    handle.object ∈ rack.objects := by
  rw [objects_take h]
  simp

/-- What a step does can be accounted for, with the objects in the slots before and behind it. -/
theorem Does.aliveAfter_eq {step : RackStep} {calls : List (Exchange Graphics)}
    {answer : RackAnswer} {next : Rack} (h : rack.Does step calls answer next)
    (others : Multiset DeviceObject) :
    aliveAfter (rack.objects + others) calls = some (next.objects + others) := by
  have hdeleted {slot : Nat} {handle : Handle} (hslot : rack.get? slot = some handle) :
      aliveAfter (rack.objects + others) [handle.deletion] =
        some ((rack.take slot).objects + others) := by
    rw [objects_take hslot]
    cases handle <;>
      simp [aliveAfter, Handle.deletion, Handle.object, GraphicsCall.named, GraphicsCall.deleted,
        Exchange.created]
  have hkept {call : GraphicsCall} {answer : call.Answer} (rest : List (Exchange Graphics))
      (hkeeps : call.keepsObjects = true) (hnamed : ∀ object ∈ call.named, object ∈ rack.objects) :
      aliveAfter (rack.objects + others) (⟨call, answer⟩ :: rest) =
        aliveAfter (rack.objects + others) rest :=
    aliveAfter_of_keepsObjects hkeeps fun object hobject =>
      Multiset.mem_add.mpr (.inl (hnamed object hobject))
  cases h with
  | created hcreates =>
    cases hcreates with
    | _ =>
      rename_i answer
      cases answer <;>
        simp [aliveAfter, GraphicsCall.named, GraphicsCall.deleted, Exchange.created, add, objects,
          ownedIn, Handle.object, Except.map, add_right_comm]
  | attached hprogram hshader =>
    have hprogram := object_mem_objects (get?_of_program? hprogram)
    have hshader := get?_of_shader? hshader
    rw [hkept _ rfl]
    · exact hdeleted hshader
    · have hstage := object_mem_objects hshader
      simpa [GraphicsCall.named, Handle.object] using ⟨hprogram, hstage⟩
  | released hslot => exact hdeleted hslot
  | boundProgram hslot =>
    have hobject := object_mem_objects hslot
    exact hkept [] rfl (by simpa [GraphicsCall.named, Handle.object] using hobject)
  | boundVertexArray hslot =>
    have hobject := object_mem_objects hslot
    exact hkept [] rfl (by simpa [GraphicsCall.named, Handle.object] using hobject)
  | unbound hslot => exact hkept [] rfl (by simp [GraphicsCall.named])
  | gone h => rfl

end Account

section Emptied

variable {rack next : Rack} {slot : Nat} {step : RackStep} {calls : List (Exchange Graphics)}
  {answer : RackAnswer}

/-- Whether there is a slot with a number, and nothing in it. -/
def IsEmptied (rack : Rack) (slot : Nat) : Prop := rack.slots[slot]? = some none

theorem IsEmptied.get? (h : rack.IsEmptied slot) : rack.get? slot = none := by
  unfold Rack.get?
  rw [show rack.slots[slot]? = some none from h]
  rfl

theorem isEmptied_take {handle : Handle} (h : rack.get? slot = some handle) :
    (rack.take slot).IsEmptied slot := by
  obtain ⟨hlength, -⟩ := List.getElem?_eq_some_iff.mp (get?_eq_some_iff.mp h)
  simp [IsEmptied, take, hlength]

/-- An empty slot is not filled again. -/
theorem Does.isEmptied (h : rack.Does step calls answer next) (hempty : rack.IsEmptied slot) :
    next.IsEmptied slot := by
  obtain ⟨hlength, hnone⟩ := List.getElem?_eq_some_iff.mp hempty
  have htake (other : Nat) : (rack.take other).IsEmptied slot := by
    by_cases hother : other = slot
    · subst hother
      simp [IsEmptied, take, hlength]
    · simp [IsEmptied, take, hother, hlength, hnone]
  have hadd (outcome : Except String Handle) : (rack.add outcome).2.IsEmptied slot := by
    have hstill (handle? : Option Handle) : (rack.slots ++ [handle?])[slot]? = some none := by
      rw [List.getElem?_append_left hlength, hempty]
    cases outcome <;> exact hstill _
  cases h with
  | created => exact hadd _
  | attached => exact htake _
  | released => exact htake _
  | boundProgram => exact hempty
  | boundVertexArray => exact hempty
  | unbound => exact hempty
  | gone => exact hempty

/-- A step that needs what was in an empty slot does nothing. -/
theorem Does.of_isEmptied (h : rack.Does step calls answer next) (hempty : rack.IsEmptied slot)
    (hslot : slot ∈ step.slots) : answer = .gone ∧ calls = [] := by
  have hnothing {handle : Handle} (hsome : rack.get? slot = some handle) : False := by
    rw [hempty.get?] at hsome
    contradiction
  cases h with
  | created hcreates => cases hcreates <;> simp [RackStep.slots] at hslot
  | attached hprogram hshader =>
    rcases List.mem_pair.mp hslot with rfl | rfl
    · exact (hnothing (get?_of_program? hprogram)).elim
    · exact (hnothing (get?_of_shader? hshader)).elim
  | released h =>
    obtain rfl := List.mem_singleton.mp hslot
    exact (hnothing h).elim
  | boundProgram h =>
    obtain rfl := List.mem_singleton.mp hslot
    exact (hnothing h).elim
  | boundVertexArray h =>
    obtain rfl := List.mem_singleton.mp hslot
    exact (hnothing h).elim
  | unbound h =>
    obtain rfl := List.mem_singleton.mp hslot
    exact (hnothing h).elim
  | gone => exact ⟨rfl, rfl⟩

/-- A refusal leaves the device as it is and the new slot empty. -/
theorem Does.of_refused {reason : String} (h : rack.Does step calls (.refused reason) next) :
    createdIn calls = 0 ∧ deletedIn calls = 0 ∧ next.IsEmptied rack.slots.length := by
  generalize hanswer : RackAnswer.refused reason = answer at h
  cases h with
  | created hcreates =>
    cases hcreates with
    | _ =>
      rename_i outcome
      cases outcome with
      | ok id => contradiction
      | error other => exact ⟨rfl, rfl, by simp [IsEmptied, add, Except.map]⟩
  | _ => contradiction

/-- Attaching a shader to a program takes its handle. -/
theorem Does.of_attach {program shader : Nat} {handle : ProgramHandle} {stage : ShaderHandle}
    (h : rack.Does (.attach program shader) calls answer next)
    (hprogram : rack.program? program = some handle) (hshader : rack.shader? shader = some stage) :
    answer = .finished ∧
      calls = [⟨.attachShader handle.id stage.id, ()⟩, ⟨.deleteShader stage.id, ()⟩] ∧
      next.IsEmptied shader := by
  cases h with
  | created hcreates => cases hcreates
  | attached hother hstage =>
    obtain rfl := Option.some.inj (hother.symm.trans hprogram)
    obtain rfl := Option.some.inj (hstage.symm.trans hshader)
    exact ⟨rfl, rfl, isEmptied_take (get?_of_shader? hshader)⟩
  | gone hgone =>
    simp only [perform, hprogram, hshader] at hgone
    contradiction

/-- Releasing a slot takes the handle in it. -/
theorem Does.of_release {handle : Handle} (h : rack.Does (.release slot) calls answer next)
    (hslot : rack.get? slot = some handle) :
    answer = .finished ∧ calls = [handle.deletion] ∧ next.IsEmptied slot := by
  cases h with
  | created hcreates => cases hcreates
  | released hother =>
    obtain rfl := Option.some.inj (hother.symm.trans hslot)
    exact ⟨rfl, rfl, isEmptied_take hslot⟩
  | gone hgone =>
    simp only [perform, hslot] at hgone
    cases handle <;> contradiction

end Emptied

/-- Carry out steps in order. -/
def performAll : List RackStep → Rack → Action (List RackAnswer × Rack)
  | [], rack => return ([], rack)
  | step :: rest, rack => do
    let (answer, rack) ← rack.perform step
    let (answers, rack) ← performAll rest rack
    return (answer :: answers, rack)

/-- Carry out steps with a rack that is empty at first, and release what is left. -/
def serve (steps : List RackStep) : Action (List RackAnswer) := do
  let (answers, rack) ← performAll steps .empty
  rack.releaseAll
  return answers

end Rack

/-- A step with its calls on the device and its answer. -/
structure RackMove where
  step : RackStep
  calls : List (Exchange Graphics)
  answer : RackAnswer

/-- The calls of moves, one after the other. -/
def callsOfMoves (moves : List RackMove) : List (Exchange Graphics) :=
  moves.flatMap RackMove.calls

namespace Rack

/-- The moves that lead from one rack to another. -/
inductive History : Rack → List RackMove → Rack → Prop where
  | still (rack : Rack) : History rack [] rack
  | move {rack between last : Rack} {step : RackStep}
      {exchanges : List (Exchange (Effects Graphics))} {answer : RackAnswer}
      {rest : List RackMove} :
      Yields (rack.perform step) exchanges (.ok (answer, between)) → History between rest last →
        History rack (⟨step, deviceTrace exchanges, answer⟩ :: rest) last

section History

variable {rack last : Rack} {moves front back : List RackMove} {slot : Nat}

/-- A history goes on behind any part of it. -/
theorem History.split (h : History rack (front ++ back) last) :
    ∃ between, History rack front between ∧ History between back last := by
  induction front generalizing rack with
  | nil => exact ⟨rack, .still rack, h⟩
  | cons first front ih =>
    cases h with
    | move hyields hrest =>
      obtain ⟨between, hfront, hback⟩ := ih hrest
      exact ⟨between, .move hyields hfront, hback⟩

/-- Every move is made by a step, with the rack that the moves before it leave. -/
theorem History.exists_does {move : RackMove} (h : History rack (front ++ move :: back) last) :
    ∃ before after, History rack front before ∧
      before.Does move.step move.calls move.answer after ∧ History after back last := by
  obtain ⟨before, hfront, hback⟩ := h.split
  cases hback with
  | move hyields hrest =>
    exact ⟨before, _, hfront, (before.ensures_perform _).of_ok hyields, hrest⟩

/-- What moves do can be accounted for, with the objects in the slots before and behind them. -/
theorem History.aliveAfter_eq (h : History rack moves last) :
    aliveAfter rack.objects (callsOfMoves moves) = some last.objects := by
  induction h with
  | still rack => rfl
  | move hyields hrest ih =>
    have hfirst := ((ensures_perform _ _).of_ok hyields).aliveAfter_eq 0
    rw [add_zero, add_zero] at hfirst
    rw [callsOfMoves, List.flatMap_cons, aliveAfter_append, hfirst]
    exact ih

/-- Whether a slot is of no use any more: steps that need it do nothing, and nothing is in it in the
end. -/
structure OutOfUse (slot : Nat) (moves : List RackMove) (last : Rack) : Prop where
  gone : ∀ move ∈ moves, slot ∈ move.step.slots → move.answer = .gone ∧ move.calls = []
  empty : last.get? slot = none

/-- A slot that was emptied is of no use any more. -/
theorem History.outOfUse (h : History rack moves last) (hempty : rack.IsEmptied slot) :
    OutOfUse slot moves last := by
  induction h with
  | still rack => exact ⟨by simp, hempty.get?⟩
  | move hyields hrest ih =>
    have hdoes := (ensures_perform _ _).of_ok hyields
    obtain ⟨hgone, hlast⟩ := ih (hdoes.isEmptied hempty)
    refine ⟨fun move hmem hslot => ?_, hlast⟩
    rcases List.mem_cons.mp hmem with rfl | hmem
    · exact hdoes.of_isEmptied hempty hslot
    · exact hgone move hmem hslot

end History

/-- Carrying out steps always comes to answers, by a history with these steps. -/
theorem exists_history {steps : List RackStep} {rack : Rack}
    {exchanges : List (Exchange (Effects Graphics))}
    {outcome : Except Abort (List RackAnswer × Rack)}
    (h : Yields (performAll steps rack) exchanges outcome) :
    ∃ moves last, outcome = .ok (moves.map RackMove.answer, last) ∧
      moves.map RackMove.step = steps ∧ History rack moves last ∧
      deviceTrace exchanges = callsOfMoves moves := by
  induction steps generalizing rack exchanges outcome with
  | nil =>
    cases h
    exact ⟨[], rack, rfl, rfl, .still rack, rfl⟩
  | cons step rest ih =>
    rcases yields_bind_iff.mp h with
      ⟨cause, hfirst, -⟩ | ⟨front, ⟨answer, between⟩, back, rfl, hfirst, hrest⟩
    · exact absurd hfirst ((rack.ensures_perform step).neverAborts _ _)
    · rcases yields_bind_iff.mp hrest with
        ⟨cause, hothers, -⟩ | ⟨others, ⟨answers, last⟩, ending, rfl, hothers, hdone⟩
      · obtain ⟨_, _, herror, -⟩ := ih hothers
        contradiction
      · obtain ⟨moves, final, hok, rfl, hhistory, htrace⟩ := ih hothers
        obtain ⟨hanswers, hfinal⟩ := Prod.mk.inj (Except.ok.inj hok)
        subst hanswers hfinal
        cases hdone
        refine ⟨⟨step, deviceTrace front, answer⟩ :: moves, last, rfl, rfl,
          .move hfirst hhistory, ?_⟩
        rw [List.append_nil, deviceTrace_append, htrace]
        rfl

/-- What is left is deleted in the order of the slots. -/
theorem ensures_releaseSlots (slots : List (Option Handle)) :
    Ensures (releaseSlots slots) fun trace _ =>
      trace = (slots.filterMap id).map Handle.deletion := by
  induction slots with
  | nil => exact ensures_done rfl
  | cons handle? rest ih =>
    cases handle? with
    | none => exact ih
    | some handle =>
      cases handle <;>
      · refine ensures_graphics_bind fun _ => ih.mono fun trace _ htrace => ?_
        rw [htrace]
        rfl

/-- Deleting what is left leaves nothing. -/
theorem aliveAfter_leftover (slots : List (Option Handle)) :
    aliveAfter (ownedIn slots) ((slots.filterMap id).map Handle.deletion) = some 0 := by
  induction slots with
  | nil => rfl
  | cons handle? rest ih =>
    cases handle? with
    | none => simpa using ih
    | some handle =>
      cases handle <;>
        simpa [aliveAfter, Handle.deletion, Handle.object, GraphicsCall.named,
          GraphicsCall.deleted, Exchange.created] using ih

section Client

variable {moves : List RackMove} {last : Rack} {trace : List (Exchange Graphics)}

/-- What becomes of the objects of a client whose moves leave a rack, of which what is left is
released. -/
structure ReleasesOnce (moves : List RackMove) (last : Rack) (trace : List (Exchange Graphics)) :
    Prop where
  /-- What is left is deleted behind the moves. -/
  ending : trace = callsOfMoves moves ++ (last.slots.filterMap id).map Handle.deletion
  /-- Between two moves just what is in the slots is alive. -/
  held : ∀ front back, moves = front ++ back → ∃ rack, History .empty front rack ∧
    aliveAfter 0 (callsOfMoves front) = some rack.objects
  /-- No call names an object behind its deletion, and nothing is alive in the end. -/
  alive : aliveAfter 0 trace = some 0
  deleted : deletedIn trace = createdIn trace
  /-- A refused creation makes nothing, and nothing is ever done with its slot. -/
  refused : ∀ front step calls reason back,
    moves = front ++ ⟨step, calls, .refused reason⟩ :: back →
      createdIn calls = 0 ∧ deletedIn calls = 0 ∧
        ∃ rack, History .empty front rack ∧ OutOfUse rack.slots.length back last
  /-- Attaching deletes the shader right away, and nothing else is ever done with its slot. -/
  attached : ∀ front program shader calls answer back,
    moves = front ++ ⟨.attach program shader, calls, answer⟩ :: back →
      ∃ rack, History .empty front rack ∧ ∀ handle stage,
        rack.program? program = some handle → rack.shader? shader = some stage →
          answer = .finished ∧
            calls = [⟨.attachShader handle.id stage.id, ()⟩, ⟨.deleteShader stage.id, ()⟩] ∧
            OutOfUse shader back last
  /-- A release deletes the object, and nothing else is ever done with its slot. -/
  released : ∀ front slot calls answer back,
    moves = front ++ ⟨.release slot, calls, answer⟩ :: back →
      ∃ rack, History .empty front rack ∧ ∀ handle, rack.get? slot = some handle →
        answer = .finished ∧ calls = [handle.deletion] ∧ OutOfUse slot back last

theorem History.releasesOnce (h : History .empty moves last) :
    ReleasesOnce moves last
      (callsOfMoves moves ++ (last.slots.filterMap id).map Handle.deletion) := by
  have halive : aliveAfter 0
      (callsOfMoves moves ++ (last.slots.filterMap id).map Handle.deletion) = some 0 := by
    have hmoves : aliveAfter 0 (callsOfMoves moves) = some last.objects := h.aliveAfter_eq
    rw [aliveAfter_append, hmoves]
    exact aliveAfter_leftover last.slots
  refine ⟨rfl, ?_, halive, ?_, ?_, ?_, ?_⟩
  · rintro front back rfl
    obtain ⟨between, hfront, -⟩ := h.split
    exact ⟨between, hfront, hfront.aliveAfter_eq⟩
  · simpa using final_add_deletedIn halive
  · rintro front step calls reason back rfl
    obtain ⟨before, after, hfront, hdoes, hback⟩ := h.exists_does
    obtain ⟨hcreated, hdeleted, hempty⟩ := hdoes.of_refused
    exact ⟨hcreated, hdeleted, before, hfront, hback.outOfUse hempty⟩
  · rintro front program shader calls answer back rfl
    obtain ⟨before, after, hfront, hdoes, hback⟩ := h.exists_does
    refine ⟨before, hfront, fun handle stage hprogram hshader => ?_⟩
    obtain ⟨hanswer, hcalls, hempty⟩ := hdoes.of_attach hprogram hshader
    exact ⟨hanswer, hcalls, hback.outOfUse hempty⟩
  · rintro front slot calls answer back rfl
    obtain ⟨before, after, hfront, hdoes, hback⟩ := h.exists_does
    refine ⟨before, hfront, fun handle hslot => ?_⟩
    obtain ⟨hanswer, hcalls, hempty⟩ := hdoes.of_release hslot
    exact ⟨hanswer, hcalls, hback.outOfUse hempty⟩

/-- Whatever a client does with its slots, in any order, and whatever the device refuses, it always
comes to its answers, and in the end every object that was created was deleted exactly once. -/
theorem serve_releases_once {steps : List RackStep}
    {exchanges : List (Exchange (Effects Graphics))} {outcome : Except Abort (List RackAnswer)}
    (h : Yields (serve steps) exchanges outcome) :
    ∃ moves last, outcome = .ok (moves.map RackMove.answer) ∧
      moves.map RackMove.step = steps ∧ History .empty moves last ∧
      ReleasesOnce moves last (deviceTrace exchanges) := by
  rcases yields_bind_iff.mp h with
    ⟨cause, hperform, -⟩ | ⟨front, ⟨answers, rack⟩, back, rfl, hperform, hrest⟩
  · obtain ⟨_, _, herror, -⟩ := exists_history hperform
    contradiction
  · obtain ⟨moves, last, hok, hsteps, hhistory, hfront⟩ := exists_history hperform
    obtain ⟨rfl, rfl⟩ := Prod.mk.inj (Except.ok.inj hok)
    have hrelease : Ensures (rack.releaseAll.bind fun _ => .done (moves.map RackMove.answer))
        fun trace result => trace = (rack.slots.filterMap id).map Handle.deletion ∧
          result = moves.map RackMove.answer := by
      refine (ensures_releaseSlots rack.slots).bind fun trace _ htrace => ensures_done ?_
      exact ⟨by rw [List.append_nil, htrace], rfl⟩
    obtain ⟨result, rfl, hback, rfl⟩ := hrelease _ _ hrest
    refine ⟨moves, rack, rfl, hsteps, hhistory, ?_⟩
    rw [deviceTrace_append, hfront, hback]
    exact hhistory.releasesOnce

/-- A device has one shader left. The second creation is refused, and the first shader is attached:
no further step finds anything in their slots. -/
theorem serve_releases_once_refused :
    ∃ (steps : List RackStep) (exchanges : List (Exchange (Effects Graphics)))
      (moves : List RackMove) (last : Rack),
      steps = [.createProgram "plain", .createShader .vertex, .createShader .fragment,
        .attach 0 1, .attach 0 1, .release 1, .attach 0 2, .createVertexArray, .bind 3,
        .release 0] ∧
      Yields (serve steps) exchanges (.ok (moves.map RackMove.answer)) ∧
      moves.map RackMove.answer = [.created 0, .created 1, .refused "out of shader objects",
        .finished, .gone, .gone, .gone, .created 3, .finished, .finished] ∧
      ReleasesOnce moves last (deviceTrace exchanges) := by
  let world : World := { device := { script := { shadersLeft := some 1 } } }
  let steps : List RackStep := [.createProgram "plain", .createShader .vertex,
    .createShader .fragment, .attach 0 1, .attach 0 1, .release 1, .attach 0 2,
    .createVertexArray, .bind 3, .release 0]
  let ending := ((serve steps).run (World.answerOther World.answerGraphics) world).1
  obtain ⟨exchanges, hyields⟩ : ∃ exchanges, Yields (serve steps) exchanges ending :=
    yields_run _ (serve steps) world
  have hending : ending.toOption = some [.created 0, .created 1,
      .refused "out of shader objects", .finished, .gone, .gone, .gone, .created 3, .finished,
      .finished] := by
    decide +kernel
  generalize ending = outcome at hyields hending
  obtain ⟨moves, last, rfl, -, -, hreleases⟩ := serve_releases_once hyields
  exact ⟨steps, exchanges, moves, last, rfl, hyields, Option.some.inj hending, hreleases⟩

end Client

end Rack

end Shaderbox
