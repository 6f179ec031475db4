import Shaderbox.Proofs.Renaming
import Shaderbox.Proofs.SameAnswers
import Shaderbox.Proofs.UniformUploads

/-!
# A reload that succeeds is as good as a restart

A scene that was reloaded has programs from one build, as a scene that is created anew has. Where
the builds are told the same, the two scenes have found the same and differ only in the names of
their objects, and nothing is left of what was done with the older scene before. So they draw the
same frames but for these names, if their particles do.
-/

namespace Shaderbox

open Interaction

variable {σ : Type} {simulation : ParticleSimulation σ} {held : σ → Multiset DeviceObject}

section Builds

variable {files : Files} {config : SceneConfig} {scene : Scene σ} {objects : SceneObjects}
  {buffer : SourceBuffer} {particles : σ} {first : List (Exchange Graphics) → σ → Prop}

/-- A reload that succeeds puts what it has built in the place of what there was. -/
theorem ensures_reload_built (hobjects : scene.objects = some objects)
    (hbuffer : sourceBuffer scene.config.shaders = .ok buffer) :
    Ensures (scene.reload files) fun trace answer => answer.1 = .ok true →
      ∃ built front, BuildsScene files scene.config buffer.capacity front built ∧
        trace = front ++ objects.programs.deletions ∧
        answer.2 =
          { scene with
            objects := some { objects with programs := built.programs }
            findings := built.findings } := by
  obtain ⟨config, _, particles, findings⟩ := scene
  obtain rfl := hobjects
  apply (ensures_buildsScene hbuffer).bind
  intro front result hbuild
  cases result with
  | error error => exact ensures_done fun hanswer => by contradiction
  | ok built =>
    dsimp only
    split
    · apply ensures_graphics_bind
      intro _
      apply ensures_graphics_bind
      intro _
      exact ensures_log_bind (ensures_done fun _ => ⟨built, front, hbuild built rfl, rfl, rfl⟩)
    · apply ensures_log_bind
      apply ensures_graphics_bind
      intro _
      apply ensures_graphics_bind
      intro _
      exact ensures_done fun hanswer => by cases hanswer

/-- A new scene has what was built first of all. -/
theorem ensures_create_built (hbuffer : sourceBuffer config.shaders = .ok buffer)
    (hinit : Ensures (simulation.init files particles) first) :
    Ensures (Scene.create files simulation particles config) fun trace result =>
      ∀ scene, result = .ok scene → ∃ built front back array,
        BuildsScene files config buffer.capacity front built ∧ trace = front ++ back ∧
          scene.objects = some ⟨built.programs, array⟩ ∧ scene.findings = built.findings := by
  apply (ensures_buildsScene hbuffer).bind
  intro front result hbuild
  cases result with
  | error error => exact ensures_done fun scene hscene => by contradiction
  | ok built =>
    apply ensures_graphics_bind
    intro answer
    cases answer with
    | error reason =>
      apply ensures_graphics_bind
      intro _
      exact ensures_graphics_bind fun _ => ensures_done fun scene hscene => by contradiction
    | ok array =>
      change Ensures (((simulation.init files particles).onAbort _).bind _) _
      rw [onAbort_eq_self hinit.neverAborts]
      apply hinit.bind
      intro initialization next hnext
      apply ensures_graphics_bind
      intro _
      apply ensures_graphics_bind
      intro _
      apply (ensures_pollError _ _).bind
      intro polled _ _
      refine ensures_log_bind (ensures_done fun scene hscene => ?_)
      obtain rfl := Except.ok.inj hscene
      exact ⟨built, front, _, ⟨array⟩, hbuild built rfl, rfl, rfl, rfl⟩

end Builds

section Accounts

variable {files : Files} {config : SceneConfig} {scene next : Scene σ} {particles : σ}
  {exchanges : List (Exchange (Effects Graphics))}

/-- Behind its creation just what a scene owns is alive of what its particles owned and what was
created. -/
theorem aliveAfter_creation
    (hinit : Custody (held particles) (simulation.init files particles) held)
    (h : Yields (Scene.create files simulation particles config) exchanges (.ok (.ok scene))) :
    aliveAfter (held particles) (deviceTrace exchanges) = some (scene.owned held) := by
  obtain ⟨-, buffer, hbuffer⟩ := returns_create files simulation particles config _ _ h scene rfl
  have htrace := (ensures_create hbuffer hinit).of_ok h
  simpa only [add_zero] using
    htrace.aliveAfter_created (fun _ _ hfirst others => hfirst others) 0

/-- A frame that was drawn to its end had a grid whose vertices can be counted. -/
theorem gridVertexCount_ok_of_drawn {objects : SceneObjects}
    (hobjects : scene.objects = some objects) {view viewProjection : Mat4}
    (h : Yields (scene.render simulation view viewProjection) exchanges (.ok next)) :
    ∃ count, scene.config.gridVertexCount = .ok count := by
  cases hgrid : scene.config.gridVertexCount with
  | ok count => exact ⟨count, rfl⟩
  | error cause =>
    rw [Scene.render_eq simulation view viewProjection hobjects] at h
    have hends := ((Scene.issues_openFrame_overflow _ _ _ _ hgrid).bind_abort.yields h).2
    cases hends

/-- An operation that comes to a result turns what a scene owns into what it owns then, whether or
not the grid could be drawn. -/
theorem aliveAfter_performed (hsimulation : KeepsAccount simulation held)
    (hbuffer : ∃ buffer, sourceBuffer scene.config.shaders = .ok buffer)
    {operation : SceneOperation}
    (h : Yields (operation.perform simulation scene) exchanges (.ok next)) :
    aliveAfter (scene.owned held) (deviceTrace exchanges) = some (next.owned held) := by
  have hcustody : Custody (scene.owned held) (operation.perform simulation scene)
      (Scene.owned held) := by
    cases operation with
    | update view dt => exact custody_update hsimulation view dt scene
    | render view viewProjection =>
      cases hobjects : scene.objects with
      | none =>
        rw [perform_eq_done hobjects]
        exact custody_done rfl
      | some objects =>
        obtain ⟨count, hcount⟩ := gridVertexCount_ok_of_drawn hobjects h
        exact custody_render hsimulation hcount view viewProjection
    | reload files => exact (custody_reload files hbuffer).bind fun _ => custody_done rfl
    | deinit => exact custody_deinit hsimulation scene
  exact hcustody.aliveAfter_eq h

/-- All through a history just what a scene owns is alive of what it owned and created. -/
theorem History.aliveAfter_eq (hsimulation : KeepsAccount simulation held)
    {steps : List SceneStep} (h : History simulation scene steps (.ok next))
    (hbuffer : ∃ buffer, sourceBuffer scene.config.shaders = .ok buffer) :
    aliveAfter (scene.owned held) (deviceTrace (exchangesOf steps)) = some (next.owned held) := by
  generalize houtcome : Except.ok next = outcome at h
  induction h with
  | still scene =>
    obtain rfl := Except.ok.inj houtcome
    rfl
  | aborted => contradiction
  | @step scene between operation exchanges rest _ hyields _ ih =>
    have hconfig := returns_perform simulation operation _ _ _ hyields
    rw [exchangesOf, List.flatMap_cons, deviceTrace_append, aliveAfter_append,
      aliveAfter_performed hsimulation hbuffer hyields, Option.bind_some]
    exact ih (by rwa [hconfig]) houtcome

/-- Only a live scene can be reloaded. -/
theorem exists_objects_of_reloaded {files : Files} {next : Scene σ}
    (h : Yields (scene.reload files) exchanges (.ok (.ok true, next))) :
    ∃ objects, scene.objects = some objects := by
  cases hobjects : scene.objects with
  | none =>
    rw [Scene.reload, hobjects] at h
    cases h
  | some objects => exact ⟨objects, rfl⟩

/-- From the creation of a scene to a reload just what the scene owns is alive of what its particles
owned and what was created. -/
theorem aliveAfter_reloading {before : Files} {now : Scene σ} {steps : List SceneStep}
    {created reloaded : List (Exchange (Effects Graphics))} {answer : Except CreateError Bool}
    (hsimulation : KeepsAccount simulation held)
    (hinit : Custody (held particles) (simulation.init before particles) held)
    (hcreated : Yields (Scene.create before simulation particles config) created (.ok (.ok scene)))
    (hhistory : History simulation scene steps (.ok now))
    (hreload : Yields (now.reload files) reloaded (.ok (answer, next))) :
    aliveAfter (held particles) (deviceTrace (created ++ exchangesOf steps ++ reloaded)) =
      some (next.owned held) := by
  have hreloading : Custody (now.owned held) (now.reload files) fun answer => answer.2.owned held :=
    custody_reload files (exists_sourceBuffer_of_created hcreated hhistory)
  rw [deviceTrace_append, deviceTrace_append, aliveAfter_append, aliveAfter_append,
    aliveAfter_creation hinit hcreated, Option.bind_some,
    hhistory.aliveAfter_eq hsimulation (exists_sourceBuffer_of_created hcreated (.still scene)),
    Option.bind_some, hreloading.aliveAfter_eq hreload]

end Accounts

section Names

variable {objects others : SceneObjects} {names own : Renaming}

/-- Objects that are the same but for their names are the same under the names of the others. -/
theorem SceneObjects.eq_rename (hsame : objects.programs.SameButNames others.programs)
    (hbasic : names.program objects.programs.basic.id = others.programs.basic.id)
    (hgrid : names.program objects.programs.grid.id = others.programs.grid.id)
    (harray : names.vertexArray objects.vertexArray.id = others.vertexArray.id) :
    others = objects.rename names := by
  obtain ⟨⟨⟨basic, basicLabel⟩, basicTable, ⟨grid, gridLabel⟩, gridTable⟩, ⟨array⟩⟩ := objects
  obtain ⟨⟨⟨_, _⟩, _, ⟨_, _⟩, _⟩, ⟨_⟩⟩ := others
  obtain ⟨hbasicLabel, hbasicTable, hgridLabel, hgridTable⟩ := hsame
  dsimp only at *
  subst hbasic hgrid harray hbasicLabel hbasicTable hgridLabel hgridTable
  rfl

/-- What a scene owns under other names. -/
theorem Scene.map_owned {scene other : Scene σ} (hobjects : scene.objects = some objects)
    (hother : other.objects = some (objects.rename names))
    (hown : ∀ object ∈ held scene.particles, names.object object = own.object object)
    (hheld : (held scene.particles).map own.object = held other.particles) :
    (scene.owned held).map names.object = other.owned held := by
  rw [owned_eq hobjects, owned_eq hother, Multiset.map_add, Multiset.map_add,
    Multiset.map_congr rfl hown, hheld]
  simp [ScenePrograms.objects, SceneObjects.rename, ScenePrograms.rename, ProgramHandle.rename,
    Renaming.object]

/-- Under other names for the objects of a scene its frames are those of another scene: whatever is
answered, just the runs of the one are runs of the other, with the names replaced. -/
structure Scene.DrawsAs (simulation : ParticleSimulation σ) (held : σ → Multiset DeviceObject)
    (names : Renaming) (scene other : Scene σ) : Prop where
  objects : (scene.owned held).map names.object = other.owned held
  frames : ∀ view viewProjection exchanges outcome,
    Yields (other.render simulation view viewProjection).discard exchanges outcome ↔
      ∃ frame, Yields (scene.render simulation view viewProjection).discard frame outcome ∧
        frame.map names.exchange = exchanges

/-- Scenes that are the same but for the names of their objects draw the same frames but for these,
if their particles do and no two objects of a scene have the same name. -/
theorem exists_drawsAs_of_same {scene other : Scene σ} {objects others : SceneObjects}
    {own : Renaming} (hobjects : scene.objects = some objects)
    (hother : other.objects = some others) (hconfig : other.config = scene.config)
    (hsame : objects.programs.SameButNames others.programs) (hscene : (scene.owned held).Nodup)
    (hothers : (other.owned held).Nodup)
    (halike : ParticlesAlike simulation held own scene.particles other.particles) :
    ∃ names, scene.DrawsAs simulation held names other := by
  rw [Scene.owned_eq hobjects] at hscene
  rw [Scene.owned_eq hother] at hothers
  obtain ⟨names, hown, hbasic, hgrid, harray⟩ := Renaming.exists_extension halike.objects
    (SceneObjects.apart_of_nodup hscene) (SceneObjects.apart_of_nodup hothers)
  obtain rfl := SceneObjects.eq_rename hsame hbasic hgrid harray
  refine ⟨names, Scene.map_owned hobjects hother hown halike.objects,
    fun view viewProjection exchanges outcome => ?_⟩
  rw [← Scene.action_render hobjects hother hconfig halike hown view viewProjection]
  exact names.yields_action_iff

/-- Whatever was done with a scene since it was created, a reload that succeeds leaves it as a scene
that is created anew from the same files would be, when the build is told the same. Both have found
the same. Under other names for programs and vertex arrays the frames of the new scene are, call by
call and answer by answer, those of the old one, if the particles of the two are alike in that. This
needs the device to hand out only names that are not in use, and the particles to keep to what they
own. -/
theorem reload_equals_restart {before files : Files} {particles others : σ} {config : SceneConfig}
    {created reloaded restarted : List (Exchange (Effects Graphics))}
    {scene now next fresh : Scene σ} {steps : List SceneStep} {own : Renaming}
    (hsimulation : KeepsAccount simulation held)
    (hinit : Custody (held particles) (simulation.init before particles) held)
    (hanew : Custody (held others) (simulation.init files others) held)
    (hcreated : Yields (Scene.create before simulation particles config) created (.ok (.ok scene)))
    (hhistory : History simulation scene steps (.ok now))
    (hreload : Yields (now.reload files) reloaded (.ok (.ok true, next)))
    (hrestart : Yields (Scene.create files simulation others config) restarted (.ok (.ok fresh)))
    (hheld : (held particles).Nodup)
    (hnames : FreshFrom (held particles) (deviceTrace (created ++ exchangesOf steps ++ reloaded)))
    (hothers : (held others).Nodup) (hrenames : FreshFrom (held others) (deviceTrace restarted))
    (htold : told (deviceTrace reloaded) <+: told (deviceTrace restarted))
    (halike : ParticlesAlike simulation held own next.particles fresh.particles) :
    next.findings = fresh.findings ∧ ∃ names, next.DrawsAs simulation held names fresh := by
  obtain ⟨hconfig, buffer, hbuffer⟩ := returns_create _ _ _ _ _ _ hcreated scene rfl
  obtain ⟨hfresh, -⟩ := returns_create _ _ _ _ _ _ hrestart fresh rfl
  have hnow : now.config = config := hhistory.config_eq.trans hconfig
  have hscene : (next.owned held).Nodup :=
    hnames.nodup hheld (aliveAfter_reloading hsimulation hinit hcreated hhistory hreload)
  have hother : (fresh.owned held).Nodup :=
    hrenames.nodup hothers (aliveAfter_creation hanew hrestart)
  obtain ⟨objects, hobjects⟩ := exists_objects_of_reloaded hreload
  obtain ⟨built, front, hbuild, htrace, rfl⟩ :=
    (ensures_reload_built hobjects (by rw [hnow, hbuffer])).of_ok hreload rfl
  obtain ⟨twin, start, rest, array, hrebuild, hretrace, hfreshObjects, hfindings⟩ :=
    (ensures_create_built hbuffer hanew).of_ok hrestart fresh rfl
  rw [htrace, hretrace, told_append, told_append] at htold
  rw [hnow] at hbuild
  obtain ⟨hsame, hprograms⟩ := hbuild.same hrebuild htold
  exact ⟨hsame.trans hfindings.symm, exists_drawsAs_of_same rfl hfreshObjects
    (hfresh.trans hnow.symm) hprograms hscene hother halike⟩

end Names

/-- A scene fails to be reloaded, and then it is reloaded. It is like one that is created anew on a
device that has given out other numbers. -/
theorem reload_equals_restart_renumbered :
    ∃ (created failed reloaded restarted : List (Exchange (Effects Graphics)))
      (scene now next fresh : Scene Swirl),
      Yields createNumbered created (.ok (.ok scene)) ∧
      History Swirl.simulation scene [⟨.reload fun _ => .absent, failed⟩] (.ok now) ∧
      now.findings ≠ scene.findings ∧
      Yields (now.reload fun _ => .absent) reloaded (.ok (.ok true, next)) ∧
      Yields createNumbered restarted (.ok (.ok fresh)) ∧
      next.objects ≠ fresh.objects ∧ next.findings = fresh.findings ∧
      ∃ names, next.DrawsAs Swirl.simulation Swirl.owned names fresh := by
  have hcreated : Yields createNumbered ((matrixWorld 1 true).rehearse createNumbered)
      (.ok (.ok (numberedScene 3 6 7 11 12 []))) := World.yields_rehearse rfl
  have hfailed : Yields ((numberedScene 3 6 7 11 12 []).reload fun _ => .absent)
      ((matrixWorld 13 false).rehearse ((numberedScene 3 6 7 11 12 []).reload fun _ => .absent))
      (.ok (.ok false, numberedScene 3 6 7 11 12 ["link log"])) := World.yields_rehearse rfl
  have hreloaded : Yields ((numberedScene 3 6 7 11 12 ["link log"]).reload fun _ => .absent)
      ((matrixWorld 19 true).rehearse
        ((numberedScene 3 6 7 11 12 ["link log"]).reload fun _ => .absent))
      (.ok (.ok true, numberedScene 21 24 7 11 12 [])) := World.yields_rehearse rfl
  have hrestarted : Yields createNumbered ((matrixWorld 5 true).rehearse createNumbered)
      (.ok (.ok (numberedScene 7 10 11 15 16 []))) := World.yields_rehearse rfl
  have hinit : Custody (Swirl.owned { shaders := {} })
      (Swirl.simulation.init (fun _ => .absent) { shaders := {} }) Swirl.owned :=
    (Swirl.ensures_initAnew rfl).custody fun _ _ htrace => htrace.aliveAfter_eq
  have hhistory : History Swirl.simulation (numberedScene 3 6 7 11 12 []) _
      (.ok (numberedScene 3 6 7 11 12 ["link log"])) :=
    .step (.reload fun _ => .absent) (yields_bind_done.mpr ⟨_, hfailed, rfl⟩) (.still _)
  have halike : ParticlesAlike Swirl.simulation Swirl.owned
      ⟨Equiv.swap ⟨11⟩ ⟨15⟩, Equiv.swap ⟨12⟩ ⟨16⟩⟩ (numberedScene 21 24 7 11 12 []).particles
      (numberedScene 7 10 11 15 16 []).particles :=
    Swirl.alike (numberedScene 21 24 7 11 12 []).particles _
  refine ⟨_, _, _, _, _, _, _, _, hcreated, hhistory, by decide +kernel, hreloaded, hrestarted,
    by decide +kernel, ?_⟩
  exact reload_equals_restart Swirl.keepsAccount hinit hinit hcreated hhistory hreloaded hrestarted
    Multiset.nodup_zero (by decide +kernel) Multiset.nodup_zero (by decide +kernel)
    (by decide +kernel) halike

end Shaderbox
