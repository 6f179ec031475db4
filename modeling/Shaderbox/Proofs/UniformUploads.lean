import Shaderbox.Proofs.CurrentTables
import Shaderbox.Proofs.FrameTurns

/-!
# No uniform is set at a stale location

Every uniform that is set in a frame is set while a living program is bound, at the location that
the device gave for that program after it was linked, under the name that the bindings have for what
the value is for. Just those uniforms are set whose location the device gave, everything is drawn
whether or not any are missing, and no location is asked for. This holds in every frame of every run
of a scene with swirling particles, whatever was reloaded before and however that went.
-/

namespace Shaderbox

open Interaction

section Turns

variable {owned : Multiset DeviceObject} {past : List (Exchange Graphics)} {program : ProgramId}
  {bindings : List UniformBinding} {table : UniformTable}

/-- Where no two bindings are for the same, the location for one is that of its entry. -/
theorem UniformTable.get?_eq {entry : UniformEntry}
    (hdistinct : (table.entries.map fun entry => entry.binding.semantic).Nodup)
    (hentry : entry ∈ table.entries) : table.get? entry.binding.semantic = entry.location := by
  unfold get? entry?
  cases hfound : table.entries.find? (·.binding.semantic == entry.binding.semantic) with
  | none =>
    have hmissing := List.find?_eq_none.mp hfound entry hentry
    simp at hmissing
  | some found =>
    have hsame : found.binding.semantic = entry.binding.semantic := by
      simpa using List.find?_some hfound
    obtain rfl := List.inj_on_of_nodup_map hdistinct (List.mem_of_find?_eq_some hfound) hentry hsame
    rfl

/-- What the device answered about a uniform of a program that was not disturbed since its
linking. -/
def Answered (owned : Multiset DeviceObject) (past : List (Exchange Graphics))
    (program : ProgramId) (name : String) (location : Option UniformLocation) : Prop :=
  ∃ since, LinkedSince owned past program since ∧
    ⟨.uniformLocation program name, location⟩ ∈ since

/-- A current table has the answer for every binding. -/
theorem UniformTable.IsCurrent.answered (h : table.IsCurrent owned past program bindings)
    (hdistinct : (bindings.map UniformBinding.semantic).Nodup) {binding : UniformBinding}
    (hbinding : binding ∈ bindings) :
    Answered owned past program binding.name (table.get? binding.semantic) := by
  obtain ⟨rfl, since, hsince, hlookups⟩ := h
  obtain ⟨entry, hentry, rfl⟩ := List.mem_map.mp hbinding
  rw [List.map_map] at hdistinct
  rw [get?_eq hdistinct hentry]
  exact ⟨since, hsince, hlookups (List.mem_map_of_mem hentry)⟩

/-- Whether the uniforms that a turn sets are up to date. -/
structure Turn.IsCurrent (turn : Turn) (owned : Multiset DeviceObject)
    (past : List (Exchange Graphics)) : Prop where
  /-- Its program is alive. -/
  alive : ∃ alive, aliveAfter owned past = some alive ∧ .program turn.program.id ∈ alive
  /-- The table has what the device answered for the name of every uniform. -/
  answered : ∀ binding ∈ turn.bindings,
    Answered owned past turn.program.id binding.name (turn.table.get? binding.semantic)
  /-- There is one value for each uniform. -/
  values : (turn.values.map Prod.fst).Perm (turn.bindings.map UniformBinding.semantic)
  /-- Just the uniforms that have a location are set. -/
  uploads : ∀ call, call ∈ turn.uploads ↔ ∃ binding ∈ turn.bindings, ∃ value location,
    (binding.semantic, value) ∈ turn.values ∧ turn.table.get? binding.semantic = some location ∧
      call = value.upload location

/-- A turn is up to date if its table is. -/
theorem UniformTable.IsCurrent.isCurrent_turn {turn : Turn} {alive : Multiset DeviceObject}
    (h : turn.table.IsCurrent owned past turn.program.id turn.bindings)
    (halive : aliveAfter owned past = some alive) (hprogram : .program turn.program.id ∈ alive)
    (hdistinct : (turn.bindings.map UniformBinding.semantic).Nodup)
    (hvalues : (turn.values.map Prod.fst).Perm (turn.bindings.map UniformBinding.semantic)) :
    turn.IsCurrent owned past := by
  refine ⟨⟨alive, halive, hprogram⟩, fun _ => h.answered hdistinct, hvalues, fun call => ?_⟩
  rw [Turn.mem_uploads_iff]
  constructor
  · rintro ⟨semantic, value, location, hvalue, hlocation, rfl⟩
    have hsemantic := hvalues.subset (List.mem_map_of_mem hvalue)
    obtain ⟨binding, hbinding, rfl⟩ := List.mem_map.mp hsemantic
    exact ⟨binding, hbinding, value, location, hvalue, hlocation, rfl⟩
  · rintro ⟨binding, -, value, location, hvalue, hlocation, rfl⟩
    exact ⟨binding.semantic, value, location, hvalue, hlocation, rfl⟩

end Turns

section Frames

variable {owned alive : Multiset DeviceObject} {past trace : List (Exchange Graphics)}
  {scene : Scene Swirl} {objects : SceneObjects} {view viewProjection : Mat4} {count : Int}

/-- While the tables of a scene are current, all turns of its frames are. -/
theorem Scene.IsCurrent.turns (h : scene.IsCurrent owned past)
    (hobjects : scene.objects = some objects) :
    ∀ turn ∈ scene.turns objects view viewProjection count, turn.IsCurrent owned past := by
  obtain ⟨hbasic, hgrid⟩ := h.programs objects hobjects
  have hbasicDistinct : (basicUniforms.map UniformBinding.semantic).Nodup := by decide
  have hgridDistinct : (gridUniforms.map UniformBinding.semantic).Nodup := by decide
  have hparticlesDistinct : (particleUniforms.map UniformBinding.semantic).Nodup := by decide
  have halive := h.alive
  rw [owned_eq hobjects] at halive
  have hbox (transformation : Mat4) (color : Vec4) :
      (Turn.box objects.programs transformation color).IsCurrent owned past :=
    hbasic.isCurrent_turn halive (by simp [Turn.box, ScenePrograms.objects]) hbasicDistinct
      (.swap _ _ _)
  unfold Scene.turns
  simp only [List.forall_mem_cons, List.forall_mem_append]
  refine ⟨⟨?_, fun turn hturn => ?_⟩, hbox _ _, hbox _ _, List.forall_mem_nil _⟩
  · exact hgrid.isCurrent_turn halive (by simp [Turn.grid, ScenePrograms.objects]) hgridDistinct
      (.refl _)
  · obtain ⟨own, hown, rfl⟩ := Option.map_eq_some_iff.mp (Option.mem_toList.mp hturn)
    exact (h.particles objects hobjects own hown).isCurrent_turn halive
      (by simp [Turn.particles, Swirl.program_mem_owned hown]) hparticlesDistinct (.refl _)

theorem UniformValue.named_upload (value : UniformValue) (location : UniformLocation) :
    (value.upload location).named = [] := by
  cases value <;> rfl

/-- A frame uses nothing but what the scene owns. -/
theorem Scene.named_of_mem_frameCalls (hobjects : scene.objects = some objects) :
    ∀ call ∈ scene.frameCalls objects view viewProjection count, ∀ object ∈ call.named,
      object ∈ scene.owned Swirl.owned := by
  rw [owned_eq hobjects]
  generalize howned : objects.programs.objects +
    ({.vertexArray objects.vertexArray.id} + scene.particles.owned) = owned
  have hturn {turn : Turn} (hprogram : .program turn.program.id ∈ owned)
      (hdrawing : ∀ call ∈ turn.drawing, ∀ object ∈ call.named, object ∈ owned) :
      ∀ call ∈ turn.calls, ∀ object ∈ call.named, object ∈ owned := by
    refine Turn.forall_mem_calls (by simpa [GraphicsCall.named]) (fun call hcall => ?_) hdrawing
      (by simp [GraphicsCall.named])
    obtain ⟨_, value, location, -, -, rfl⟩ := Turn.mem_uploads_iff.mp hcall
    rw [value.named_upload]
    exact List.forall_mem_nil _
  subst howned
  have hbox (transformation : Mat4) (color : Vec4) :=
    @hturn (Turn.box objects.programs transformation color)
      (by simp [Turn.box, ScenePrograms.objects]) (by simp [Turn.box, GraphicsCall.named])
  unfold frameCalls openingCalls closingCalls gridPreparation
  simp only [List.forall_mem_append]
  refine ⟨⟨⟨⟨?_, ?_⟩, ?_⟩, ?_⟩, ⟨⟨?_, hbox _ _⟩, hbox _ _⟩, ?_⟩
  · simp [GraphicsCall.named]
  · exact hturn (by simp [Turn.grid, ScenePrograms.objects])
      (by simp [Turn.grid, GraphicsCall.named])
  · simp [GraphicsCall.named]
  · unfold Swirl.frameCalls
    cases hown : scene.particles.objects with
    | none => exact List.forall_mem_nil _
    | some own =>
      exact hturn (by simp [Turn.particles, Swirl.program_mem_owned hown])
        (by simp [Turn.particles, GraphicsCall.named, Swirl.owned, hown, SwirlObjects.owned])
  · simp [GraphicsCall.named]
  · simp [GraphicsCall.named]

/-- What is alive at the beginning of a frame is alive all through it. -/
theorem aliveAfter_of_inFrame (hframe : ∀ exchange ∈ trace, exchange.request.inFrame = true)
    (hnamed : ∀ exchange ∈ trace, ∀ object ∈ exchange.request.named, object ∈ alive) :
    aliveAfter alive trace = some alive := by
  induction trace with
  | nil => rfl
  | cons exchange rest ih =>
    obtain ⟨hfirst, hothers⟩ := List.forall_mem_cons.mp hframe
    obtain ⟨hnames, hrest⟩ := List.forall_mem_cons.mp hnamed
    have hkeeps : exchange.request.keepsObjects = true := by
      revert hfirst
      cases exchange.request <;> first | exact fun _ => rfl | exact fun hframe => by contradiction
    rw [aliveAfter_of_keepsObjects hkeeps hnames]
    exact ih hothers hrest

/-- What goes for a frame of the given turns, whether or not it comes to its end. -/
structure FrameIsCurrent (owned : Multiset DeviceObject) (past : List (Exchange Graphics))
    (turns : List Turn) (trace : List (Exchange Graphics)) : Prop where
  /-- All turns are up to date. -/
  current : ∀ turn ∈ turns, turn.IsCurrent owned past
  /-- Uniforms are set in the turns only, while the program of the turn is bound and alive. -/
  uploads : ∀ front exchange back, trace = front ++ exchange :: back →
    exchange.request.setsUniform = true → ∀ bound, ∃ turn ∈ turns,
      boundAfter bound (front.map Exchange.request) = some turn.program.id ∧
        exchange.request ∈ turn.uploads ∧
        ∃ alive, aliveAfter owned (past ++ front) = some alive ∧ .program turn.program.id ∈ alive
  /-- No location is asked for. -/
  asks : ∀ exchange ∈ trace, exchange.request.looksUp = false

/-- While the tables of a scene are current, so is every frame, as far as it gets. -/
theorem Scene.IsCurrent.frame (h : scene.IsCurrent owned past)
    (hobjects : scene.objects = some objects)
    (htrace : trace.map Exchange.request <+: scene.frameCalls objects view viewProjection count) :
    FrameIsCurrent owned past (scene.turns objects view viewProjection count) trace := by
  have hcurrent := @IsCurrent.turns _ _ _ _ view viewProjection count h hobjects
  have hmem : ∀ exchange ∈ trace,
      exchange.request ∈ scene.frameCalls objects view viewProjection count :=
    fun exchange hexchange => htrace.subset (List.mem_map_of_mem hexchange)
  have hframe : ∀ exchange ∈ trace, exchange.request.inFrame = true := fun exchange hexchange =>
    inFrame_of_mem_frameCalls view viewProjection count _ (hmem exchange hexchange)
  have hnamed : ∀ exchange ∈ trace, ∀ object ∈ exchange.request.named,
      object ∈ scene.owned Swirl.owned := fun exchange hexchange =>
    named_of_mem_frameCalls hobjects _ (hmem exchange hexchange)
  refine ⟨hcurrent, ?_, fun exchange hexchange =>
    GraphicsCall.looksUp_of_inFrame (hframe exchange hexchange)⟩
  rintro front exchange back rfl hsets bound
  -- the frame may have broken off, but up to there it went as one that did not
  have hbound : SetsUniformsFor (fun program call =>
      ∃ turn ∈ scene.turns objects view viewProjection count,
        turn.program.id = program ∧ call ∈ turn.uploads) bound
      (scene.frameCalls objects view viewProjection count) :=
    (scene.takesTurns_frameCalls objects view viewProjection count).setsUniformsFor
      (fun turn hturn call hcall => ⟨turn, hturn, rfl, hcall⟩)
      (scene.setsUniform_of_mem_drawing objects view viewProjection count)
  obtain ⟨rest, hrest⟩ := htrace
  rw [← hrest, List.map_append, List.append_assoc, setsUniformsFor_append] at hbound
  obtain ⟨_, hprogram, turn, hturn, rfl, hupload⟩ := hbound.2.1 hsets
  obtain ⟨alive, halive, hmember⟩ := (hcurrent turn hturn).alive
  refine ⟨turn, hturn, hprogram, hupload, alive, ?_, hmember⟩
  obtain rfl := Option.some.inj (h.alive.symm.trans halive)
  rw [aliveAfter_append, h.alive, Option.bind_some]
  exact aliveAfter_of_inFrame (fun first hfirst => hframe first (List.mem_append_left _ hfirst))
    fun first hfirst => hnamed first (List.mem_append_left _ hfirst)

end Frames

/-- In every run of a scene with swirling particles, whatever was reloaded before a frame and
however that went, uniforms are set in the turns of the frame only, while the program of the turn is
bound and alive. Just those are set that the device gave a location for when it was asked for their
names, which was behind the linking of the program, and the location is the one it gave. No location
is asked for in the frame. Unless the vertices of the grid cannot be counted, all turns are taken,
and everything is drawn whether or not uniforms are missing. -/
theorem render_sets_current_uniforms {files : Files} {particles : Swirl} {config : SceneConfig}
    {created exchanges : List (Exchange (Effects Graphics))} {scene : Scene Swirl}
    {before after : List SceneStep} {view viewProjection : Mat4}
    {ending : Except Abort (Scene Swirl)}
    (hcreated : Yields (Scene.create files Swirl.simulation particles config) created
      (.ok (.ok scene)))
    (hhistory : History Swirl.simulation scene
      (before ++ ⟨.render view viewProjection, exchanges⟩ :: after) ending) :
    ∃ now outcome, History Swirl.simulation scene before (.ok now) ∧
      Yields (now.render Swirl.simulation view viewProjection) exchanges outcome ∧
      (now.objects = none → exchanges = []) ∧
      ∀ objects, now.objects = some objects → ∃ count,
        FrameIsCurrent particles.owned (deviceTrace (created ++ exchangesOf before))
          (now.turns objects view viewProjection count) (deviceTrace exchanges) ∧
        (now.config.gridVertexCount = .ok count ∧ outcome = .ok now ∧
            TakesTurns (now.turns objects view viewProjection count)
              ((deviceTrace exchanges).map Exchange.request) ∧
            ((deviceTrace exchanges).map Exchange.request).filter GraphicsCall.draws =
              now.drawn count ∨
          ∃ cause, now.config.gridVertexCount = .error cause ∧ outcome = .error cause ∧
            (deviceTrace exchanges).map Exchange.request =
              now.brokenCalls objects viewProjection) := by
  obtain ⟨now, outcome, hbefore, hrender⟩ := hhistory.exists_before
  change Yields (now.render Swirl.simulation view viewProjection) exchanges outcome at hrender
  have hcurrent : now.IsCurrent particles.owned (deviceTrace (created ++ exchangesOf before)) := by
    rw [deviceTrace_append]
    exact hbefore.isCurrent (isCurrent_of_created hcreated) particles.nodup_owned
      (exists_sourceBuffer_of_created hcreated (.still scene))
  refine ⟨now, outcome, hbefore, hrender, fun hgone => ?_, fun objects hobjects => ?_⟩
  · rw [Scene.render, hgone] at hrender
    cases hrender
    rfl
  · cases hgrid : now.config.gridVertexCount with
    | ok count =>
      obtain ⟨hcalls, result, rfl⟩ :=
        (issues_renderScene view viewProjection hobjects hgrid).yields hrender
      obtain rfl := returns_render_swirl hobjects view viewProjection _ _ hrender
      rw [← deviceTrace_eq_callTrace] at hcalls
      have hturns := Scene.takesTurns_frameCalls result objects view viewProjection count
      refine ⟨count, hcurrent.frame hobjects (by rw [hcalls]), .inl ⟨rfl, rfl, ?_, ?_⟩⟩
      · rwa [hcalls]
      · rw [hcalls, hturns.filter_draws, Scene.flatMap_drawing_turns]
    | error cause =>
      obtain ⟨hcalls, hends⟩ :=
        (issues_renderScene_overflow view viewProjection hobjects hgrid).yields hrender
      rw [← deviceTrace_eq_callTrace] at hcalls
      refine ⟨0, hcurrent.frame hobjects ?_, .inr ⟨cause, rfl, hends, hcalls⟩⟩
      rw [hcalls]
      exact Scene.brokenCalls_isPrefix _ _ _

/-- A world whose device numbers new objects from here, links programs or does not, and has no
uniform but the matrix. -/
def matrixWorld (number : Nat) (links : Bool) : World where
  device :=
    { script := { uniforms := ["uMVP"], linkSucceeds := links }
      nextNumber := number }

/-- The table of a program that has no uniform but the matrix. -/
def matrixTable (bindings : List UniformBinding) : UniformTable where
  entries := bindings.map fun binding =>
    ⟨binding, if binding.name = "uMVP" then some ⟨0⟩ else none⟩

/-- A scene with swirling particles for which there are no files, by the numbers of its objects and
what was said about its programs when these did not link. -/
def numberedScene (basic grid array program own : Nat) (logs : List String) : Scene Swirl where
  config := {}
  objects := some
    { programs := ⟨⟨⟨basic⟩, ({} : SceneConfig).basic.label⟩, matrixTable basicUniforms,
        ⟨⟨grid⟩, ({} : SceneConfig).grid.label⟩, matrixTable gridUniforms⟩
      vertexArray := ⟨⟨array⟩⟩ }
  particles :=
    { shaders := {}
      objects := some ⟨⟨⟨program⟩, Swirl.sources.label⟩, matrixTable particleUniforms, ⟨⟨own⟩⟩⟩ }
  findings := [({} : SceneConfig).basic, ({} : SceneConfig).grid].flatMap fun sources =>
    sources.stages.map (fun stage => .missingFile ⟨"shaders/" ++ stage.2.text⟩) ++
      logs.map fun log => .linkFailed sources.label log

/-- Create a scene with swirling particles where there are no files. -/
def createNumbered : Action (Except CreateError (Scene Swirl)) :=
  Scene.create (fun _ => .absent) Swirl.simulation { shaders := {} } {}

/-- Reload a scene where there are no files. -/
def reloadNumbered (scene : Scene Swirl) : Action (Except CreateError Bool × Scene Swirl) :=
  scene.reload fun _ => .absent

/-- Draw a scene as it stands. -/
def renderNumbered (scene : Scene Swirl) : Action (Scene Swirl) :=
  scene.render Swirl.simulation .identity .identity

/-- On a device whose programs have no uniform but the matrix a scene is created, then reloaded and
then drawn. Everything is drawn all the same, and what is set is up to date. -/
theorem render_sets_current_uniforms_reloaded :
    ∃ (first second third : World)
      (created reloading exchanges : List (Exchange (Effects Graphics)))
      (scene now : Scene Swirl) (objects : SceneObjects),
      first.device.script.uniforms = ["uMVP"] ∧
      second = first.behind createNumbered ∧ third = second.behind (reloadNumbered scene) ∧
      created = first.rehearse createNumbered ∧
      reloading = second.rehearse (reloadNumbered scene) ∧
      exchanges = third.rehearse (renderNumbered now) ∧
      Yields createNumbered created (.ok (.ok scene)) ∧
      History Swirl.simulation scene [⟨.reload fun _ => .absent, reloading⟩] (.ok now) ∧
      Yields (renderNumbered now) exchanges (.ok now) ∧
      now.objects = some objects ∧ scene.objects ≠ some objects ∧
      FrameIsCurrent 0 (deviceTrace (created ++ reloading))
        (now.turns objects .identity .identity 132) (deviceTrace exchanges) ∧
      ((deviceTrace exchanges).map Exchange.request).filter GraphicsCall.draws =
        [.drawLines 0 132, .drawPoints 0 16384, .drawLines 0 24, .drawLines 0 24] := by
  have hcreated : Yields createNumbered ((matrixWorld 1 true).rehearse createNumbered)
      (.ok (.ok (numberedScene 3 6 7 11 12 []))) := World.yields_rehearse rfl
  -- the device goes on with its numbers, whatever it knows of the shaders that it had
  have hdevice : ((matrixWorld 1 true).behind createNumbered).device =
      { (matrixWorld 13 true).device with
        shaders := ((matrixWorld 1 true).behind createNumbered).device.shaders } := rfl
  generalize hsecond : (matrixWorld 1 true).behind createNumbered = second at hdevice
  have hreloaded : Yields (reloadNumbered (numberedScene 3 6 7 11 12 []))
      (second.rehearse (reloadNumbered (numberedScene 3 6 7 11 12 [])))
      (.ok (.ok true, numberedScene 15 18 7 11 12 [])) := by
    obtain ⟨⟨script, number, shaders⟩, platform, transcript, log⟩ := second
    cases hdevice
    exact World.yields_rehearse rfl
  generalize hthird : second.behind (reloadNumbered (numberedScene 3 6 7 11 12 [])) = third
  have hgrid : (numberedScene 15 18 7 11 12 []).config.gridVertexCount = .ok 132 := by
    unfold SceneConfig.gridVertexCount
    rw [Number.signedWord_of_le (by decide)]
    rfl
  have hrendered : Yields (renderNumbered (numberedScene 15 18 7 11 12 []))
      (third.rehearse (renderNumbered (numberedScene 15 18 7 11 12 []))) _ :=
    World.yields_rehearse rfl
  obtain ⟨-, result, houtcome⟩ :=
    (issues_renderScene .identity .identity rfl hgrid).yields hrendered
  rw [houtcome] at hrendered
  obtain rfl := returns_render_swirl rfl .identity .identity _ _ hrendered
  have hhistory : History Swirl.simulation (numberedScene 3 6 7 11 12 [])
      ([⟨.reload fun _ => .absent, _⟩] ++ ⟨.render .identity .identity, _⟩ :: [])
      (.ok (numberedScene 15 18 7 11 12 [])) :=
    .step _ (yields_bind_done.mpr ⟨_, hreloaded, rfl⟩) (.step _ hrendered (.still _))
  obtain ⟨now, outcome, hbefore, hyields, -, hframe⟩ :=
    render_sets_current_uniforms hcreated hhistory
  obtain rfl : numberedScene 15 18 7 11 12 [] = now := by
    cases hbefore with
    | step _ hfirst hrest =>
      cases hrest
      exact Except.ok.inj ((yields_bind_done.mpr ⟨_, hreloaded, rfl⟩).outcome_unique hfirst)
  obtain ⟨count, hcurrent, ⟨hcount, rfl, -, hdraws⟩ | ⟨cause, hcount, -⟩⟩ := hframe _ rfl
  · obtain rfl := Except.ok.inj (hgrid.symm.trans hcount)
    refine ⟨_, second, third, _, _, _, _, _, _, rfl, hsecond.symm, hthird.symm, rfl, rfl, rfl,
      hcreated, hbefore, hrendered, rfl, by decide +kernel, ?_, hdraws⟩
    change FrameIsCurrent (Swirl.owned { shaders := {} }) _ _ _
    simpa only [exchangesOf, List.flatMap_cons, List.flatMap_nil, List.append_nil] using hcurrent
  · rw [hgrid] at hcount
    cases hcount

end Shaderbox
