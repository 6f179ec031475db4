import Shaderbox.Proofs.FramePasses
import Shaderbox.Proofs.Freshness
import Shaderbox.Proofs.SceneLifetime

/-!
# Tables of uniforms that go with their programs

The scene and its particles keep a table of uniforms next to each program. A table is current when
it has what the device answered for the program after that was linked, and nothing has disturbed
the program since. All tables are current when a scene was created, and every operation leaves them
so: drawing leaves the programs alone, and a reload puts new tables next to new programs or leaves
both as they are. What is deleted on the way is never a program that stays, as long as the device
hands out only names that are not in use.
-/

namespace Shaderbox

open Interaction

variable {owned alive own others left : Multiset DeviceObject}
  {past trace more since : List (Exchange Graphics)} {program : ProgramId}
  {bindings : List UniformBinding} {table : UniformTable}

/-- Whether a table has, for each of the bindings, what the device answered for a program behind its
linking. -/
structure UniformTable.IsCurrent (table : UniformTable) (owned : Multiset DeviceObject)
    (past : List (Exchange Graphics)) (program : ProgramId) (bindings : List UniformBinding) :
    Prop where
  bindings : table.entries.map UniformEntry.binding = bindings
  lookedUp : ∃ since, LinkedSince owned past program since ∧ table.lookups program ⊆ since

namespace UniformTable.IsCurrent

theorem append_keeping (h : table.IsCurrent owned past program bindings)
    (hmore : ∀ exchange ∈ more, exchange.request.keepsPrograms = true) :
    table.IsCurrent owned (past ++ more) program bindings := by
  obtain ⟨hbindings, since, hsince, hlookups⟩ := h
  exact ⟨hbindings, _, hsince.append_keeping hmore, List.subset_append_of_subset_left _ hlookups⟩

theorem append_beside (h : table.IsCurrent owned past program bindings) (howned : owned.Nodup)
    (halive : aliveAfter owned past = some (own + others)) (hprogram : .program program ∈ others)
    (hmore : aliveAfter own more = some left) :
    table.IsCurrent owned (past ++ more) program bindings := by
  obtain ⟨hbindings, since, hsince, hlookups⟩ := h
  exact ⟨hbindings, _, hsince.append_beside howned halive hprogram hmore,
    List.subset_append_of_subset_left _ hlookups⟩

end UniformTable.IsCurrent

theorem UniformTable.keepsPrograms_lookups (table : UniformTable) (program : ProgramId) :
    ∀ exchange ∈ table.lookups program, exchange.request.keepsPrograms = true := by
  simp [lookups, GraphicsCall.keepsPrograms]

/-- A table that is looked up behind the linking of its program is current. -/
theorem LinkedSince.isCurrent (h : LinkedSince owned past program since)
    (hbindings : table.entries.map UniformEntry.binding = bindings) :
    table.IsCurrent owned (past ++ table.lookups program) program bindings :=
  ⟨hbindings, _, h.append_keeping (table.keepsPrograms_lookups program),
    List.subset_append_right _ _⟩

/-- Whether the programs of a scene have current tables. -/
structure ScenePrograms.AreCurrent (programs : ScenePrograms) (owned : Multiset DeviceObject)
    (past : List (Exchange Graphics)) : Prop where
  basic : programs.basicUniforms.IsCurrent owned past programs.basic.id Shaderbox.basicUniforms
  grid : programs.gridUniforms.IsCurrent owned past programs.grid.id Shaderbox.gridUniforms

namespace ScenePrograms.AreCurrent

variable {programs : ScenePrograms}

theorem append_keeping (h : programs.AreCurrent owned past)
    (hmore : ∀ exchange ∈ more, exchange.request.keepsPrograms = true) :
    programs.AreCurrent owned (past ++ more) :=
  ⟨h.basic.append_keeping hmore, h.grid.append_keeping hmore⟩

theorem append_beside (h : programs.AreCurrent owned past) (howned : owned.Nodup)
    (halive : aliveAfter owned past = some (own + others)) (hprograms : programs.objects ≤ others)
    (hmore : aliveAfter own more = some left) : programs.AreCurrent owned (past ++ more) := by
  have hmem (object : DeviceObject) (hobject : object ∈ programs.objects) : object ∈ others :=
    Multiset.mem_of_le hprograms hobject
  exact ⟨h.basic.append_beside howned halive (hmem _ (by simp [objects])) hmore,
    h.grid.append_beside howned halive (hmem _ (by simp [objects])) hmore⟩

end ScenePrograms.AreCurrent

section Builds

variable {files : Files}

/-- The programs of a scene are built with current tables. -/
theorem SceneBuildTrace.areCurrent {config : SceneConfig} {built : SceneProgramsBuild}
    (h : SceneBuildTrace files config trace (.ok built)) (howned : owned.Nodup)
    (halive : aliveAfter owned past = some alive) :
    built.programs.AreCurrent owned (past ++ trace) := by
  cases h with
  | @built _ _ basic grid basicTrace gridTrace basicTable gridTable hbasic hgrid hfirst hsecond =>
    obtain ⟨sinceBasic, hsinceBasic⟩ := hbasic.linkedSince owned past
    obtain ⟨sinceGrid, hsinceGrid⟩ := hgrid.linkedSince owned (past ++ basicTrace)
    have hbetween : aliveAfter owned (past ++ basicTrace) = some (0 + (basic.objects + alive)) := by
      rw [aliveAfter_append, halive, Option.bind_some, hbasic.aliveAfter_eq, leftBy, zero_add]
    -- the second build does not concern the program of the first
    have hbuilt := hsinceBasic.append_beside howned hbetween
      (by simp [ProgramBuild.objects]) hgrid.aliveAfter_eq
    have hbasicTable := (hbuilt.isCurrent hfirst).append_keeping
      (gridTable.keepsPrograms_lookups grid.program.id)
    have hgridTable := (hsinceGrid.append_keeping
      (basicTable.keepsPrograms_lookups basic.program.id)).isCurrent hsecond
    constructor
    · simpa only [List.append_assoc] using hbasicTable
    · simpa only [List.append_assoc] using hgridTable

/-- The program of the particles is built with a current table. -/
theorem SwirlBuildTrace.isCurrent {shaders : ShaderConfig} {objects : SwirlObjects}
    (h : SwirlBuildTrace files shaders trace (some objects)) (owned : Multiset DeviceObject)
    (past : List (Exchange Graphics)) :
    objects.uniforms.IsCurrent owned (past ++ trace) objects.program.id particleUniforms := by
  cases h with
  | @built _ build front array table hbuild hbindings =>
    obtain ⟨since, hsince⟩ := hbuild.linkedSince owned past
    have hcreated : ∀ exchange ∈ [(⟨.createVertexArray, .ok array⟩ : Exchange Graphics)],
        exchange.request.keepsPrograms = true := by
      simp [GraphicsCall.keepsPrograms]
    simpa only [List.append_assoc, List.singleton_append] using
      (hsince.append_keeping hcreated).isCurrent hbindings

end Builds

/-- Whether just the objects of a scene and its particles are alive, and all tables are current. -/
structure Scene.IsCurrent (scene : Scene Swirl) (owned : Multiset DeviceObject)
    (past : List (Exchange Graphics)) : Prop where
  alive : aliveAfter owned past = some (scene.owned Swirl.owned)
  programs : ∀ objects, scene.objects = some objects → objects.programs.AreCurrent owned past
  particles : ∀ objects, scene.objects = some objects → ∀ own, scene.particles.objects = some own →
    own.uniforms.IsCurrent owned past own.program.id particleUniforms

section Creation

/-- What particles own does not have the same name twice: a program and a vertex array differ. -/
theorem Swirl.nodup_owned (swirl : Swirl) : swirl.owned.Nodup := by
  unfold owned
  cases swirl.objects with
  | none => exact Multiset.nodup_zero
  | some objects => simp [SwirlObjects.owned]

/-- A scene is created only if there is a buffer for the sources of its particles. -/
theorem returns_create_swirl (files : Files) (particles : Swirl) (config : SceneConfig) :
    Returns (Scene.create files Swirl.simulation particles config) fun result =>
      ∀ scene, result = .ok scene → ∃ buffer, sourceBuffer particles.shaders = .ok buffer := by
  cases hbuffer : sourceBuffer particles.shaders with
  | ok buffer => exact fun _ _ _ _ _ => ⟨buffer, rfl⟩
  | error cause =>
    have hinit (cleanUp : Action Unit) :
        Returns ((Swirl.simulation.init files particles).onAbort cleanUp) fun _ => False := by
      have habort : Swirl.simulation.init files particles = .abort cause := by
        change Swirl.init files particles = _
        rw [Swirl.init, Swirl.build, hbuffer]
        rfl
      have hfails : Returns (.abort cause : Action Swirl) fun _ => False :=
        fun _ _ hyields => by cases hyields
      rw [habort, onAbort]
      split
      · exact returns_bind fun _ => hfails
      · exact hfails
    refine returns_bind fun result => ?_
    cases result with
    | error error => exact returns_done fun scene h => by contradiction
    | ok built =>
      refine returns_bind fun answer => ?_
      cases answer with
      | error reason => exact returns_bind fun _ => returns_done fun scene h => by contradiction
      | ok array => exact (hinit _).bind fun _ hfalse => hfalse.elim

/-- Particles are initialized with a current table, whatever they owned before. -/
theorem Swirl.InitTrace.isCurrent {files : Files} {before next : Swirl} {objects : SwirlObjects}
    (h : InitTrace files before trace next) (hobjects : next.objects = some objects)
    (howned : owned.Nodup) (halive : aliveAfter owned past = some (before.owned + others)) :
    objects.uniforms.IsCurrent owned (past ++ trace) objects.program.id particleUniforms := by
  obtain ⟨front, hbuild, rfl⟩ := h
  have hfront : aliveAfter owned (past ++ front) =
      some (before.owned + (objects.owned + others)) := by
    rw [aliveAfter_append, halive, Option.bind_some, hbuild.aliveAfter_eq, hobjects]
    exact congrArg some (add_left_comm _ _ _)
  have hdeletions : aliveAfter before.owned (Swirl.deletions before.objects) = some 0 := by
    simpa only [add_zero] using before.aliveAfter_deletions 0
  rw [hobjects] at hbuild
  rw [← List.append_assoc]
  exact (hbuild.isCurrent owned past).append_beside howned hfront (by simp [SwirlObjects.owned])
    hdeletions

/-- A scene is created with current tables, whatever its particles owned before. -/
theorem CreateTrace.isCurrent {files : Files} {config : SceneConfig} {before : Swirl}
    {scene : Scene Swirl}
    (h : CreateTrace files config (Swirl.InitTrace files before) trace (.ok scene)) :
    scene.IsCurrent before.owned trace := by
  cases h with
  | @created built front initialization particles array code hbuild hinit =>
    let creation : Exchange Graphics := ⟨.createVertexArray, .ok array⟩
    let settings : List (Exchange Graphics) := [⟨.setClearColor config.clearColor, ()⟩,
      ⟨.enableProgramPointSize, ()⟩, ⟨.lastError, code⟩]
    have hsettings : ∀ exchange ∈ settings, exchange.request.keepsPrograms = true := by
      simp [settings, GraphicsCall.keepsPrograms]
    have hcreation (alive : Multiset DeviceObject) :
        aliveAfter alive [creation] = some (alive + {.vertexArray array}) := by
      simp [creation, aliveAfter, GraphicsCall.named, GraphicsCall.deleted, Exchange.created]
    have hfront : aliveAfter before.owned front = some (before.owned + built.programs.objects) := by
      rw [hbuild.aliveAfter_eq, leftBy, add_comm]
    have hcreated : aliveAfter before.owned (front ++ [creation]) =
        some (before.owned + (built.programs.objects + {.vertexArray array})) := by
      rw [aliveAfter_append, hfront, Option.bind_some, hcreation, add_assoc]
    have hrest (others : Multiset DeviceObject) : aliveAfter (before.owned + others)
        ([creation] ++ initialization ++ settings) =
          some (particles.owned + (others + {.vertexArray array})) := by
      rw [aliveAfter_append, aliveAfter_append, hcreation, Option.bind_some, add_assoc,
        hinit.aliveAfter_eq]
      simp [settings, aliveAfter, GraphicsCall.named, GraphicsCall.deleted, Exchange.created]
    have hprograms : built.programs.AreCurrent before.owned ([] ++ front) :=
      hbuild.areCurrent before.nodup_owned rfl
    have htrace : front ++ creation :: (initialization ++ settings) =
        front ++ ([creation] ++ initialization ++ settings) := by simp
    change Scene.IsCurrent _ _ (front ++ creation :: (initialization ++ settings))
    refine ⟨?_, fun objects hobjects => ?_, fun objects hobjects own hown => ?_⟩
    · rw [htrace, aliveAfter_append, hfront, Option.bind_some, hrest]
      dsimp only [Scene.owned]
      exact congrArg some (by ac_rfl)
    · -- initializing the particles concerns only what these own
      obtain rfl := Option.some.inj hobjects
      rw [htrace]
      have hown := hrest 0
      rw [add_zero] at hown
      exact hprograms.append_beside before.nodup_owned hfront le_rfl hown
    · have hcurrent := hinit.isCurrent hown before.nodup_owned hcreated
      simpa only [List.append_assoc, List.cons_append, List.nil_append] using
        hcurrent.append_keeping hsettings

/-- A new scene has current tables. -/
theorem isCurrent_of_created {files : Files} {particles : Swirl} {config : SceneConfig}
    {created : List (Exchange (Effects Graphics))} {scene : Scene Swirl}
    (h : Yields (Scene.create files Swirl.simulation particles config) created
      (.ok (.ok scene))) :
    scene.IsCurrent particles.owned (deviceTrace created) := by
  obtain ⟨-, buffer, hbuffer⟩ := returns_create files _ particles config _ _ h scene rfl
  obtain ⟨room, hroom⟩ := returns_create_swirl files particles config _ _ h scene rfl
  exact ((ensures_create hbuffer (Swirl.ensures_initAnew hroom)).of_ok h).isCurrent

end Creation

section Operations

variable {files : Files} {scene next : Scene Swirl} {objects : SceneObjects}

theorem Scene.owned_eq {σ : Type} {scene : Scene σ} {objects : SceneObjects}
    (hobjects : scene.objects = some objects) (held : σ → Multiset DeviceObject) :
    scene.owned held = objects.programs.objects +
      ({.vertexArray objects.vertexArray.id} + held scene.particles) := by
  rw [owned, hobjects]

theorem Swirl.program_mem_owned {swirl : Swirl} {own : SwirlObjects}
    (hobjects : swirl.objects = some own) : .program own.program.id ∈ swirl.owned := by
  simp [owned, hobjects, SwirlObjects.owned]

/-- Calls that leave all programs as they are leave all tables current. -/
theorem Scene.IsCurrent.append_keeping (h : scene.IsCurrent owned past)
    (halive : aliveAfter (scene.owned Swirl.owned) more = some (scene.owned Swirl.owned))
    (hmore : ∀ exchange ∈ more, exchange.request.keepsPrograms = true) :
    scene.IsCurrent owned (past ++ more) where
  alive := by rw [aliveAfter_append, h.alive, Option.bind_some, halive]
  programs := fun objects hobjects => (h.programs objects hobjects).append_keeping hmore
  particles := fun objects hobjects own hown =>
    (h.particles objects hobjects own hown).append_keeping hmore

/-- What is deleted again behind its creation concerns no program that there was before. -/
theorem Scene.IsCurrent.append_beside (h : scene.IsCurrent owned past) (howned : owned.Nodup)
    (hsame : next.withoutFindings = scene.withoutFindings)
    (hmore : aliveAfter 0 more = some 0) : next.IsCurrent owned (past ++ more) := by
  have hobjects : next.objects = scene.objects := by
    change next.withoutFindings.objects = scene.withoutFindings.objects
    rw [hsame]
  have hparticles : next.particles = scene.particles := by
    change next.withoutFindings.particles = scene.withoutFindings.particles
    rw [hsame]
  have halive : aliveAfter owned past = some (0 + scene.owned Swirl.owned) := by
    rw [h.alive, zero_add]
  refine ⟨?_, fun others hothers => ?_, fun others hothers own hown => ?_⟩
  · rw [aliveAfter_append, halive, Option.bind_some, aliveAfter_beside hmore, zero_add,
      Scene.owned, Scene.owned, hobjects, hparticles]
  · rw [hobjects] at hothers
    refine (h.programs others hothers).append_beside howned halive ?_ hmore
    rw [owned_eq hothers]
    exact Multiset.le_add_right _ _
  · rw [hobjects] at hothers
    rw [hparticles] at hown
    refine (h.particles others hothers own hown).append_beside howned halive ?_ hmore
    rw [owned_eq hothers]
    simp [Swirl.program_mem_owned hown]

/-- New programs take over with their tables, and the table of the particles stays current. -/
theorem TakesOver.isCurrent {built : SceneProgramsBuild}
    (h : TakesOver files scene next objects built trace) (hobjects : scene.objects = some objects)
    (howned : owned.Nodup) (hcurrent : scene.IsCurrent owned past) :
    next.IsCurrent owned (past ++ trace) := by
  obtain ⟨rfl, ⟨front, hbuild, -, rfl⟩, -, haccount⟩ := h
  have halive := hcurrent.alive
  rw [Scene.owned_eq hobjects] at halive
  refine ⟨?_, fun others hothers => ?_, fun others hothers own hown => ?_⟩
  · rw [aliveAfter_append, halive, Option.bind_some, aliveAfter_beside haccount]
    rfl
  · -- behind the build the old programs are deleted, and no new one has the name of an old one
    obtain rfl := Option.some.inj hothers
    have hfront : aliveAfter owned (past ++ front) = some (objects.programs.objects +
        (built.programs.objects + ({.vertexArray objects.vertexArray.id} +
          scene.particles.owned))) := by
      rw [aliveAfter_append, halive, Option.bind_some, hbuild.aliveAfter_eq, leftBy]
      exact congrArg some (add_left_comm _ _ _)
    have hdeletions : aliveAfter objects.programs.objects objects.programs.deletions = some 0 := by
      simpa only [add_zero] using @ScenePrograms.aliveAfter_deletions 0 objects.programs
    rw [← List.append_assoc]
    exact (hbuild.areCurrent howned hcurrent.alive).append_beside howned hfront
      (Multiset.le_add_right _ _) hdeletions
  · refine (hcurrent.particles objects hobjects own hown).append_beside howned halive ?_ haccount
    exact Multiset.mem_add.mpr (.inr (Swirl.program_mem_owned hown))

/-- No call of a frame does anything to a program. -/
theorem GraphicsCall.keepsPrograms_of_inFrame {call : GraphicsCall} (h : call.inFrame = true) :
    call.keepsPrograms = true := by
  cases call <;> first | rfl | contradiction

/-- Drawing leaves the scene as it is. -/
theorem returns_render_swirl (hobjects : scene.objects = some objects)
    (view viewProjection : Mat4) :
    Returns (scene.render Swirl.simulation view viewProjection) fun next => next = scene := by
  rw [Scene.render_swirl_eq view viewProjection hobjects]
  exact returns_bind fun _ => returns_bind fun _ => returns_bind fun _ => returns_done rfl

/-- Drawing leaves all tables current. -/
theorem Scene.IsCurrent.render (h : scene.IsCurrent owned past)
    (hobjects : scene.objects = some objects) {view viewProjection : Mat4}
    {exchanges : List (Exchange (Effects Graphics))}
    (hyields : Yields (scene.render Swirl.simulation view viewProjection) exchanges (.ok next)) :
    next.IsCurrent owned (past ++ deviceTrace exchanges) := by
  obtain rfl : next = scene := returns_render_swirl hobjects view viewProjection _ _ hyields
  cases hgrid : next.config.gridVertexCount with
  | error cause =>
    have hends := ((issues_renderScene_overflow view viewProjection hobjects hgrid).yields
      hyields).2
    cases hends
  | ok count =>
    have hcalls := ((issues_renderScene view viewProjection hobjects hgrid).yields hyields).1
    have hkeeps : ∀ exchange ∈ deviceTrace exchanges, exchange.request.keepsPrograms = true := by
      intro exchange hexchange
      rw [deviceTrace_eq_callTrace] at hexchange
      have hcall := List.mem_map_of_mem (f := Exchange.request) hexchange
      rw [hcalls] at hcall
      exact GraphicsCall.keepsPrograms_of_inFrame
        (inFrame_of_mem_frameCalls view viewProjection count _ hcall)
    have hcustody := custody_render Swirl.keepsAccount hgrid view viewProjection
    exact h.append_keeping (hcustody.aliveAfter_eq hyields) hkeeps

/-- Every operation leaves all tables current. -/
theorem Scene.IsCurrent.perform (h : scene.IsCurrent owned past) (howned : owned.Nodup)
    (hbuffer : ∃ buffer, sourceBuffer scene.config.shaders = .ok buffer)
    {operation : SceneOperation} {exchanges : List (Exchange (Effects Graphics))}
    (hyields : Yields (operation.perform Swirl.simulation scene) exchanges (.ok next)) :
    next.IsCurrent owned (past ++ deviceTrace exchanges) := by
  cases hobjects : scene.objects with
  | none =>
    rw [perform_eq_done hobjects] at hyields
    cases hyields
    rwa [deviceTrace, List.filterMap_nil, List.append_nil]
  | some objects =>
    cases operation with
    | update view dt =>
      obtain ⟨config, _, particles, findings⟩ := scene
      obtain rfl := hobjects
      cases hyields
      rw [deviceTrace, List.filterMap_nil, List.append_nil]
      exact ⟨h.alive, h.programs, h.particles⟩
    | render view viewProjection => exact h.render hobjects hyields
    | reload files =>
      obtain ⟨buffer, hbuffer⟩ := hbuffer
      obtain ⟨outcome, hreload, hnext⟩ := yields_bind_done.mp hyields
      obtain ⟨⟨result, _⟩, rfl, htrace⟩ := ensures_reload hobjects hbuffer _ _ hreload
      obtain rfl := Except.ok.inj hnext
      by_cases hresult : result = .ok true
      · obtain ⟨built, htakes⟩ := htrace.takesOver hresult
        exact htakes.isCurrent hobjects howned h
      · have hmark := htrace.leavesNoMark hresult
        exact h.append_beside howned hmark.same hmark.accounted
    | deinit =>
      have hgone : next.objects = none := returns_deinit Swirl.simulation scene _ _ hyields
      have hcustody := custody_deinit Swirl.keepsAccount scene
      refine ⟨?_, fun others hothers => ?_, fun others hothers => ?_⟩
      · rw [aliveAfter_append, h.alive, Option.bind_some]
        exact hcustody.aliveAfter_eq hyields
      · rw [hgone] at hothers
        contradiction
      · rw [hgone] at hothers
        contradiction

/-- All tables are current all through a history. -/
theorem History.isCurrent {steps : List SceneStep}
    (h : History Swirl.simulation scene steps (.ok next)) (hcurrent : scene.IsCurrent owned past)
    (howned : owned.Nodup) (hbuffer : ∃ buffer, sourceBuffer scene.config.shaders = .ok buffer) :
    next.IsCurrent owned (past ++ deviceTrace (exchangesOf steps)) := by
  generalize houtcome : Except.ok next = outcome at h
  induction h generalizing past with
  | still scene =>
    obtain rfl := Except.ok.inj houtcome
    rwa [exchangesOf, List.flatMap_nil, deviceTrace, List.filterMap_nil, List.append_nil]
  | aborted => contradiction
  | @step scene between operation exchanges rest _ hyields _ ih =>
    have hconfig := returns_perform Swirl.simulation operation _ _ _ hyields
    rw [exchangesOf, List.flatMap_cons, deviceTrace_append, ← List.append_assoc]
    exact ih (hcurrent.perform howned hbuffer hyields) (by rwa [hconfig]) houtcome

end Operations

end Shaderbox
