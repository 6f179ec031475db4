import Shaderbox.Proofs.FramePasses

/-!
# A frame as a sequence of turns

Uniforms are set and things are drawn in turns of programs only, and what is called between the
turns does neither. So whatever program is bound at first, a uniform is set while the program of a
turn is bound that is to set it, and everything is drawn that the turns are there for, whether or
not there are uniforms to be set.
-/

namespace Shaderbox

open Interaction

section Calls

/-- Whether a call sets a uniform. -/
def GraphicsCall.setsUniform : GraphicsCall → Bool
  | .setUniformSingle .. => true
  | .setUniformVec4 .. => true
  | .setUniformMat4 .. => true
  | _ => false

/-- Whether a call draws. -/
def GraphicsCall.draws : GraphicsCall → Bool
  | .drawLines .. => true
  | .drawPoints .. => true
  | _ => false

/-- The program that is bound behind a call, when the given one was bound before. -/
def GraphicsCall.bound : Option ProgramId → GraphicsCall → Option ProgramId
  | _, .useProgram program => program
  | bound, _ => bound

/-- The program that is bound behind calls, when the given one was bound before. -/
def boundAfter (bound : Option ProgramId) (calls : List GraphicsCall) : Option ProgramId :=
  calls.foldl GraphicsCall.bound bound

theorem UniformValue.bound_upload (value : UniformValue) (location : UniformLocation)
    (bound : Option ProgramId) : (value.upload location).bound bound = bound := by
  cases value <;> rfl

theorem UniformValue.draws_upload (value : UniformValue) (location : UniformLocation) :
    (value.upload location).draws = false := by
  cases value <;> rfl

end Calls

section Bound

variable {meant : ProgramId → GraphicsCall → Prop} {bound : Option ProgramId}
  {front back calls : List GraphicsCall} {turn : Turn}

/-- Whether every call that sets a uniform is made while a program is bound for which it is meant,
when the given one is bound at first. -/
def SetsUniformsFor (meant : ProgramId → GraphicsCall → Prop) :
    Option ProgramId → List GraphicsCall → Prop
  | _, [] => True
  | bound, call :: rest =>
    (call.setsUniform = true → ∃ program, bound = some program ∧ meant program call) ∧
      SetsUniformsFor meant (call.bound bound) rest

theorem setsUniformsFor_append :
    SetsUniformsFor meant bound (front ++ back) ↔
      SetsUniformsFor meant bound front ∧ SetsUniformsFor meant (boundAfter bound front) back := by
  induction front generalizing bound with
  | nil => exact (iff_of_eq (true_and _)).symm
  | cons call rest ih =>
    rw [List.cons_append, SetsUniformsFor, SetsUniformsFor, ih, and_assoc]
    rfl

/-- Calls that set no uniform may be made at any time. -/
theorem setsUniformsFor_of_forall_not (h : ∀ call ∈ calls, call.setsUniform = false) :
    SetsUniformsFor meant bound calls := by
  induction calls generalizing bound with
  | nil => trivial
  | cons call rest ih =>
    obtain ⟨hcall, hrest⟩ := List.forall_mem_cons.mp h
    exact ⟨fun hsets => by simp [hcall] at hsets, ih hrest⟩

/-- Setting one uniform after the other leaves the program bound. -/
theorem setsUniformsFor_of_uploads {program : ProgramId}
    (huploads : ∀ call ∈ calls, ∃ value location, call = UniformValue.upload value location)
    (hmeant : ∀ call ∈ calls, meant program call) :
    SetsUniformsFor meant (some program) calls := by
  induction calls with
  | nil => trivial
  | cons call rest ih =>
    obtain ⟨⟨value, location, rfl⟩, hothers⟩ := List.forall_mem_cons.mp huploads
    obtain ⟨hcall, hrest⟩ := List.forall_mem_cons.mp hmeant
    refine ⟨fun _ => ⟨program, rfl, hcall⟩, ?_⟩
    rw [value.bound_upload]
    exact ih hothers hrest

namespace Turn

/-- In a turn uniforms are set only while its program is bound, if what is drawn sets none. -/
theorem setsUniformsFor_calls (hmeant : ∀ call ∈ turn.uploads, meant turn.program.id call)
    (hdrawing : ∀ call ∈ turn.drawing, call.setsUniform = false) :
    SetsUniformsFor meant bound turn.calls := by
  refine ⟨fun hsets => by contradiction, ?_⟩
  refine setsUniformsFor_append.mpr ⟨setsUniformsFor_append.mpr ⟨?_, ?_⟩, ?_⟩
  · refine setsUniformsFor_of_uploads (fun call hcall => ?_) hmeant
    obtain ⟨_, value, location, -, -, hupload⟩ := mem_uploads_iff.mp hcall
    exact ⟨value, location, hupload⟩
  · exact setsUniformsFor_of_forall_not hdrawing
  · exact setsUniformsFor_of_forall_not (by simp [GraphicsCall.setsUniform])

/-- What is drawn in a turn does not depend on its uniforms. -/
theorem filter_draws_calls :
    turn.calls.filter GraphicsCall.draws = turn.drawing.filter GraphicsCall.draws := by
  have huploads : turn.uploads.filter GraphicsCall.draws = [] := by
    refine List.filter_eq_nil_iff.mpr fun call hcall => ?_
    obtain ⟨_, value, location, -, -, rfl⟩ := mem_uploads_iff.mp hcall
    simp [value.draws_upload]
  simp [calls, huploads, GraphicsCall.draws]

end Turn

end Bound

section Turns

/-- Whether a call may stand between turns: it binds no program, sets no uniform and draws
nothing. -/
def GraphicsCall.betweenTurns : GraphicsCall → Bool
  | .useProgram _ => false
  | call => !call.setsUniform && !call.draws

/-- Whether calls are the given turns in order, with other calls between them. -/
inductive TakesTurns : List Turn → List GraphicsCall → Prop where
  | nil : TakesTurns [] []
  | between {call : GraphicsCall} {turns : List Turn} {calls : List GraphicsCall}
      (hcall : call.betweenTurns = true) (rest : TakesTurns turns calls) :
      TakesTurns turns (call :: calls)
  | turn (first : Turn) {turns : List Turn} {calls : List GraphicsCall}
      (rest : TakesTurns turns calls) : TakesTurns (first :: turns) (first.calls ++ calls)

variable {turns others : List Turn} {calls rest : List GraphicsCall}

theorem TakesTurns.append (h : TakesTurns turns calls) (hrest : TakesTurns others rest) :
    TakesTurns (turns ++ others) (calls ++ rest) := by
  induction h with
  | nil => exact hrest
  | between hcall _ ih => exact .between hcall ih
  | turn first _ ih =>
    rw [List.append_assoc]
    exact .turn first ih

theorem takesTurns_between (h : calls.all GraphicsCall.betweenTurns = true) :
    TakesTurns [] calls := by
  induction calls with
  | nil => exact .nil
  | cons call rest ih =>
    obtain ⟨hcall, hrest⟩ := Bool.and_eq_true_iff.mp h
    exact .between hcall (ih hrest)

theorem takesTurns_turn (turn : Turn) : TakesTurns [turn] turn.calls := by
  simpa using TakesTurns.turn turn .nil

/-- Just what the turns are there for is drawn. -/
theorem TakesTurns.filter_draws (h : TakesTurns turns calls) :
    calls.filter GraphicsCall.draws =
      turns.flatMap fun turn => turn.drawing.filter GraphicsCall.draws := by
  induction h with
  | nil => rfl
  | @between call _ _ hcall _ ih =>
    have hdraws : call.draws = false := by
      cases call <;> first | rfl | contradiction
    rw [List.filter_cons, hdraws, ih]
    rfl
  | turn first _ ih => rw [List.filter_append, first.filter_draws_calls, ih, List.flatMap_cons]

/-- Uniforms are set in a turn only, while its program is bound. -/
theorem TakesTurns.setsUniformsFor {meant : ProgramId → GraphicsCall → Prop}
    {bound : Option ProgramId} (h : TakesTurns turns calls)
    (hmeant : ∀ turn ∈ turns, ∀ call ∈ turn.uploads, meant turn.program.id call)
    (hdrawing : ∀ turn ∈ turns, ∀ call ∈ turn.drawing, call.setsUniform = false) :
    SetsUniformsFor meant bound calls := by
  induction h generalizing bound with
  | nil => trivial
  | @between call _ _ hcall _ ih =>
    refine ⟨fun hsets => ?_, ih hmeant hdrawing⟩
    cases call <;> contradiction
  | turn first _ ih =>
    obtain ⟨hfirst, hothers⟩ := List.forall_mem_cons.mp hmeant
    obtain ⟨hdrawn, hrest⟩ := List.forall_mem_cons.mp hdrawing
    exact setsUniformsFor_append.mpr ⟨first.setsUniformsFor_calls hfirst hdrawn, ih hothers hrest⟩

end Turns

section Frame

variable (scene : Scene Swirl) (objects : SceneObjects) (view viewProjection : Mat4) (count : Int)

/-- The turns of a frame of a scene with swirling particles, in which the grid has so many
vertices. -/
def Scene.turns : List Turn :=
  Turn.grid scene.config objects.programs scene.particles.boxSize viewProjection count ::
    (scene.particles.objects.map fun own =>
      Turn.particles own scene.particles view viewProjection).toList ++
    [Turn.box objects.programs (viewProjection.scaledEvenly scene.particles.boxSize)
        simulationBoxColor,
      Turn.box objects.programs
        (viewProjection.scaled (Swirl.simulation.fieldDimensions scene.particles)) fieldBoxColor]

/-- What is drawn in a frame: the grid, the particles if they have their objects, and two boxes. -/
def Scene.drawn (scene : Scene Swirl) (count : Int) : List GraphicsCall :=
  .drawLines 0 count ::
    (if scene.particles.objects.isSome then [.drawPoints 0 scene.particles.count] else []) ++
    [.drawLines 0 boxVertexCount, .drawLines 0 boxVertexCount]

theorem Scene.takesTurns_frameCalls :
    TakesTurns (scene.turns objects view viewProjection count)
      (scene.frameCalls objects view viewProjection count) := by
  have hparticles : TakesTurns (scene.particles.objects.map fun own =>
      Turn.particles own scene.particles view viewProjection).toList
      (scene.particles.frameCalls view viewProjection) := by
    unfold Swirl.frameCalls
    cases scene.particles.objects with
    | none => exact .nil
    | some own => exact takesTurns_turn _
  have hopening : TakesTurns [Turn.grid scene.config objects.programs scene.particles.boxSize
      viewProjection count]
      (openingCalls scene.config objects scene.particles.boxSize viewProjection count) :=
    ((takesTurns_between rfl).append (takesTurns_turn _)).append (takesTurns_between rfl)
  exact (hopening.append hparticles).append <|
    (((takesTurns_between rfl).append (takesTurns_turn _)).append (takesTurns_turn _)).append
      (takesTurns_between rfl)

theorem Scene.flatMap_drawing_turns :
    (scene.turns objects view viewProjection count).flatMap
      (fun turn => turn.drawing.filter GraphicsCall.draws) = scene.drawn count := by
  unfold turns drawn
  cases scene.particles.objects <;> rfl

theorem Scene.setsUniform_of_mem_drawing :
    ∀ turn ∈ scene.turns objects view viewProjection count,
      ∀ call ∈ turn.drawing, call.setsUniform = false := by
  unfold turns
  cases scene.particles.objects <;>
    simp [Turn.grid, Turn.particles, Turn.box, GraphicsCall.setsUniform]

end Frame

end Shaderbox
