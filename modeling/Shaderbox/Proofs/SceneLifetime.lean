import Shaderbox.Proofs.Announcements
import Shaderbox.Proofs.GridVertices

/-!
# A scene from its creation to its end

Between any two operations exactly those objects of the device are alive that the scene and its
particles own, and none are once the scene was deinitialized. The particles are initialized once
and deinitialized once, and in between they are only updated and drawn. This holds for every run,
whatever the files hold, whatever the device answers and in whichever order things are done.
-/

namespace Shaderbox

open Interaction

/-- Whether an operation deinitializes the scene. -/
def SceneOperation.isDeinit : SceneOperation → Bool
  | .deinit => true
  | _ => false

/-- All exchanges of a history, in order. -/
def exchangesOf (steps : List SceneStep) : List (Exchange (Effects Graphics)) :=
  steps.flatMap SceneStep.exchanges

/-- Whether a scene was deinitialized in a history. -/
def deinitialized (steps : List SceneStep) : Bool :=
  steps.any fun step => step.operation.isDeinit

/-- What a history of a live scene calls the simulation for before the scene is deinitialized. -/
def passes : List SceneStep → List Observation
  | [] => []
  | step :: rest =>
    if step.operation.isDeinit then [] else step.operation.observation?.toList ++ passes rest

/-- What a history of a live scene calls the simulation for at all. -/
def callsOf (steps : List SceneStep) : List Observation :=
  passes steps ++ if deinitialized steps then [.particlesDeinit] else []

/-- Nothing is called for behind the first deinitialization. -/
theorem callsOf_cons (step : SceneStep) (rest : List SceneStep) :
    callsOf (step :: rest) =
      step.operation.observation?.toList ++
        if step.operation.isDeinit then [] else callsOf rest := by
  obtain ⟨operation, exchanges⟩ := step
  cases operation <;> rfl

/-- Before a scene is deinitialized its particles are only updated and drawn. -/
theorem mem_passes {steps : List SceneStep} {observation : Observation}
    (h : observation ∈ passes steps) :
    observation ≠ .particlesInit ∧ observation ≠ .particlesDeinit := by
  induction steps with
  | nil => contradiction
  | cons step rest ih =>
    obtain ⟨operation, exchanges⟩ := step
    rw [passes] at h
    split at h
    · contradiction
    · rename_i hdeinit
      rcases List.mem_append.mp h with hfirst | hrest
      · cases operation with
        | update view dt =>
          obtain rfl := List.mem_singleton.mp hfirst
          exact ⟨by simp, by simp⟩
        | render view viewProjection =>
          obtain rfl := List.mem_singleton.mp hfirst
          exact ⟨by simp, by simp⟩
        | reload files => contradiction
        | deinit => contradiction
      · exact ih hrest

section Histories

variable {σ : Type} {simulation : ParticleSimulation σ} {held : σ → Multiset DeviceObject}
  {scene final : Scene σ} {steps : List SceneStep}

/-- A scene stays live until it is deinitialized. -/
theorem returns_isLive (simulation : ParticleSimulation σ) (operation : SceneOperation)
    (scene : Scene σ) :
    Returns (operation.perform simulation scene) fun next =>
      next.isLive = (scene.isLive && !operation.isDeinit) := by
  obtain ⟨config, objects, particles, findings⟩ := scene
  cases objects with
  | none => cases operation <;> exact returns_done rfl
  | some objects =>
    cases operation with
    | update view dt => exact returns_bind fun _ => returns_done rfl
    | render view viewProjection => exact returns_bind fun _ => returns_done rfl
    | reload files =>
      exact (returns_reload files _).bind fun answer hanswer => returns_done hanswer.2.2
    | deinit =>
      refine returns_bind fun _ => returns_bind fun _ => returns_bind fun _ => ?_
      exact returns_bind fun _ => returns_done rfl

theorem History.isLive_eq (h : History simulation scene steps (.ok final)) :
    final.isLive = (scene.isLive && !deinitialized steps) := by
  generalize houtcome : Except.ok final = outcome at h
  induction h with
  | still scene =>
    obtain rfl := Except.ok.inj houtcome
    exact (Bool.and_true _).symm
  | aborted => contradiction
  | step operation hyields _ ih =>
    rw [ih houtcome, returns_isLive simulation operation _ _ _ hyields, deinitialized,
      deinitialized, List.any_cons, Bool.not_or, Bool.and_assoc]

/-- A history never ends with an abort, and turns what the scene owned into what it owns then. -/
theorem History.accounts (hsimulation : KeepsAccount simulation held)
    {ending : Except Abort (Scene σ)} (h : History simulation scene steps ending)
    (hbuffer : ∃ buffer, sourceBuffer scene.config.shaders = .ok buffer)
    (hgrid : ∃ count, scene.config.gridVertexCount = .ok count) :
    ∃ final, ending = .ok final ∧ ∀ others,
      aliveAfter (scene.owned held + others) (deviceTrace (exchangesOf steps)) =
        some (final.owned held + others) := by
  induction h with
  | still scene => exact ⟨scene, rfl, fun _ => rfl⟩
  | aborted operation hyields =>
    have hcustody := custody_perform hsimulation hbuffer hgrid operation
    exact absurd hyields (hcustody.neverAborts _ _)
  | step operation hyields _ ih =>
    have hcustody := custody_perform hsimulation hbuffer hgrid operation
    have hconfig := returns_perform simulation operation _ _ _ hyields
    have hfirst := hcustody.of_ok hyields
    obtain ⟨final, hfinal, hrest⟩ := ih (by rwa [hconfig]) (by rwa [hconfig])
    refine ⟨final, hfinal, fun others => ?_⟩
    rw [exchangesOf, List.flatMap_cons, deviceTrace_append, aliveAfter_append, hfirst,
      Option.bind_some]
    exact hrest others

/-- A history of a live scene calls the simulation for what it should and for nothing else. -/
theorem History.outward_eq
    (hspeaks : SpeaksAs simulation fun observation => [.observe observation])
    (h : History simulation scene steps (.ok final)) :
    outward (exchangesOf steps) =
      if scene.isLive then (callsOf steps).map Request.observe else [] := by
  generalize houtcome : Except.ok final = outcome at h
  induction h with
  | still scene => cases scene.isLive <;> rfl
  | aborted => contradiction
  | @step scene next operation exchanges rest _ hyields _ ih =>
    have hlive := returns_isLive simulation operation scene _ _ hyields
    rw [exchangesOf, List.flatMap_cons, outward_append]
    change _ ++ outward (exchangesOf rest) = _
    rw [ih houtcome, hlive]
    cases hscene : scene.isLive with
    | false =>
      rw [perform_eq_done (by simpa [Scene.isLive] using hscene)] at hyields
      cases hyields
      rfl
    | true =>
      rw [says_perform hspeaks hscene operation _ _ hyields, callsOf_cons]
      cases operation <;> rfl

/-- Dropping a scene is deinitializing it for the last time. -/
theorem drop_eq (simulation : ParticleSimulation σ) (scene : Scene σ) :
    Scene.drop simulation (some scene) =
      (SceneOperation.deinit.perform simulation scene).bind fun _ => .done () := rfl

end Histories

section Swirl

variable {created : List (Exchange (Effects Graphics))} {scene final : Scene Swirl}
  {steps : List SceneStep}

/-- As long as a scene is live its particles keep the objects that they have. -/
theorem returns_particles (operation : SceneOperation) (scene : Scene Swirl) :
    Returns (operation.perform Swirl.simulation.announced scene) fun next =>
      next.isLive = true → next.particles.objects = scene.particles.objects := by
  obtain ⟨config, objects, particles, findings⟩ := scene
  cases objects with
  | none => cases operation <;> exact returns_done fun _ => rfl
  | some objects =>
    cases operation with
    | update view dt =>
      have hupdate : Returns (Swirl.simulation.announced.update dt view particles)
          fun next => next.objects = particles.objects :=
        returns_bind fun _ => returns_done rfl
      exact hupdate.bind fun next hnext => returns_done fun _ => hnext
    | render view viewProjection =>
      have hrender : Returns (Swirl.simulation.announced.render view viewProjection particles)
          fun next => next.objects = particles.objects :=
        returns_bind fun _ => returns_bind fun _ => returns_done rfl
      have hdraw : Returns (Scene.renderWith Swirl.simulation.announced view viewProjection config
          objects particles) fun next => next.objects = particles.objects := by
        refine returns_bind fun _ => returns_bind fun _ => returns_bind fun _ => ?_
        refine returns_bind fun _ => returns_bind fun _ => hrender.bind fun next hnext => ?_
        refine returns_bind fun _ => returns_bind fun _ => returns_bind fun _ => ?_
        refine returns_bind fun _ => returns_bind fun _ => returns_bind fun _ => ?_
        exact returns_done hnext
      exact hdraw.bind fun next hnext => returns_done fun _ => hnext
    | reload files =>
      refine (returns_reload files _).bind fun answer hanswer => returns_done fun _ => ?_
      rw [hanswer.2.1]
    | deinit =>
      refine returns_bind fun _ => returns_bind fun _ => returns_bind fun _ => ?_
      exact returns_bind fun _ => returns_done fun hlive => by contradiction

theorem History.particles_eq
    (h : History Swirl.simulation.announced scene steps (.ok final))
    (hlive : final.isLive = true) : final.particles.objects = scene.particles.objects := by
  generalize houtcome : Except.ok final = outcome at h
  induction h with
  | still scene =>
    obtain rfl := Except.ok.inj houtcome
    rfl
  | aborted => contradiction
  | @step scene next operation exchanges rest _ hyields hrest ih =>
    subst houtcome
    have hnext : next.isLive = true := by
      have heq := hrest.isLive_eq
      rw [hlive] at heq
      exact (Bool.and_eq_true_iff.mp heq.symm).1
    rw [ih rfl, returns_particles operation scene _ _ hyields hnext]

/-- What a run of a scene comes to between two operations: the scene is live until it was
deinitialized and its particles have what they got at first; just the objects of the scene and its
particles are alive; the particles were called for their initialization and then for what was done;
and a scene that was deinitialized does nothing any more. -/
structure SceneStands (created : List (Exchange (Effects Graphics))) (scene : Scene Swirl)
    (steps : List SceneStep) (final : Scene Swirl) : Prop where
  live : final.isLive = !deinitialized steps
  particles : final.isLive = true → final.particles.objects = scene.particles.objects
  alive : aliveAfter 0 (deviceTrace (created ++ exchangesOf steps)) =
    some (final.owned Swirl.owned)
  calls : outward (created ++ exchangesOf steps) =
    (Observation.particlesInit :: callsOf steps).map Request.observe
  idle : final.isLive = false → ∀ (operation : SceneOperation) exchanges outcome,
    Yields (operation.perform Swirl.simulation.announced final) exchanges outcome →
      exchanges = [] ∧ outcome = .ok final

/-- What a run of a scene comes to when the scene is dropped: nothing is alive any more, all that was
created was deleted exactly once, and the particles were initialized first and deinitialized last. -/
structure SceneEnds (created : List (Exchange (Effects Graphics))) (steps : List SceneStep)
    (dropped : List (Exchange (Effects Graphics))) : Prop where
  alive : aliveAfter 0 (deviceTrace (created ++ exchangesOf steps ++ dropped)) = some 0
  deleted : deletedIn (deviceTrace (created ++ exchangesOf steps ++ dropped)) =
    createdIn (deviceTrace (created ++ exchangesOf steps ++ dropped))
  calls : outward (created ++ exchangesOf steps ++ dropped) =
    (Observation.particlesInit :: (passes steps ++ [.particlesDeinit])).map Request.observe
  once : ∀ observation ∈ passes steps,
    observation ≠ .particlesInit ∧ observation ≠ .particlesDeinit
  idle : deinitialized steps = true → dropped = []

/-- A run whose creation left what the scene owns stands between any two operations. -/
theorem History.stands {ending : Except Abort (Scene Swirl)}
    (h : History Swirl.simulation.announced scene steps ending) (hlive : scene.isLive = true)
    (hcreated : aliveAfter 0 (deviceTrace created) = some (scene.owned Swirl.owned))
    (hinit : outward created = [.observe .particlesInit])
    (hbuffer : ∃ buffer, sourceBuffer scene.config.shaders = .ok buffer)
    (hgrid : ∃ count, scene.config.gridVertexCount = .ok count) :
    ∃ final, ending = .ok final ∧ SceneStands created scene steps final := by
  obtain ⟨final, rfl, halive⟩ :=
    h.accounts Swirl.keepsAccount.announced hbuffer hgrid
  refine ⟨final, rfl, ?_, h.particles_eq, ?_, ?_, ?_⟩
  · rw [h.isLive_eq, hlive, Bool.true_and]
  · have hsteps := halive 0
    rw [add_zero, add_zero] at hsteps
    rw [deviceTrace_append, aliveAfter_append, hcreated, Option.bind_some, hsteps]
  · rw [outward_append, hinit, h.outward_eq Swirl.speaksAs_nothing.announced, hlive]
    rfl
  · intro hdead operation exchanges outcome hyields
    rw [perform_eq_done (by simpa [Scene.isLive] using hdead)] at hyields
    cases hyields
    exact ⟨rfl, rfl⟩

/-- Dropping the scene ends a run that stands. -/
theorem SceneStands.ends (h : SceneStands created scene steps final)
    {dropped : List (Exchange (Effects Graphics))} {outcome : Except Abort Unit}
    (hdropped : Yields (Scene.drop Swirl.simulation.announced (some final)) dropped outcome) :
    outcome = .ok () ∧ SceneEnds created steps dropped := by
  obtain ⟨_, rfl, haccount⟩ :=
    custody_drop Swirl.keepsAccount.announced (some final) _ _ hdropped
  have hdrop := haccount 0
  have halive : aliveAfter 0 (deviceTrace (created ++ exchangesOf steps ++ dropped)) = some 0 := by
    rw [deviceTrace_append, aliveAfter_append, h.alive, Option.bind_some]
    simpa using hdrop
  have hbalance := final_add_deletedIn halive
  rw [zero_add, zero_add] at hbalance
  have hidle : deinitialized steps = true → dropped = [] := by
    intro hdead
    rw [drop_eq, perform_eq_done] at hdropped
    · cases hdropped
      rfl
    · simpa [Scene.isLive, hdead] using h.live
  refine ⟨rfl, halive, hbalance, ?_, fun _ => mem_passes, hidle⟩
  rw [outward_append, h.calls, callsOf]
  cases hdead : deinitialized steps with
  | true =>
    rw [hidle hdead]
    simp [outward]
  | false =>
    have hsays := says_perform Swirl.speaksAs_nothing.announced
      (show final.isLive = true by rw [h.live, hdead]; rfl) .deinit
    have hlast := hsays.bind_quiet (fun _ => quiet_done ()) _ _ hdropped
    rw [hlast]
    simp [SceneOperation.observation?]

/-- Whatever the files hold and whatever the device refuses, creating a scene with swirling
particles comes to a result. If that is an error nothing is left and the particles were not called.
Otherwise the scene is live, and its particles have their objects exactly when nothing was refused.
Whatever is done with the scene then, it never ends with an abort, between any two operations just
what the scene owns is alive, and when the scene is dropped everything is released exactly once. -/
theorem scene_lifetime {files : Files} {particles : Swirl} {config : SceneConfig}
    {created : List (Exchange (Effects Graphics))}
    {outcome : Except Abort (Except CreateError (Scene Swirl))}
    (hbuffer : ∃ buffer, sourceBuffer config.shaders = .ok buffer)
    (hparticles : ∃ buffer, sourceBuffer particles.shaders = .ok buffer)
    (hfresh : particles.objects = none) (hgrid : config.gridResolution.toNat < 2 ^ 29 - 1)
    (h : Yields (Scene.create files Swirl.simulation.announced particles config) created
      outcome) :
    (∃ error, outcome = .ok (.error error) ∧ aliveAfter 0 (deviceTrace created) = some 0 ∧
        outward created = []) ∨
      ∃ scene, outcome = .ok (.ok scene) ∧ scene.isLive = true ∧
        scene.particles.objects.isSome = grantsAll (deviceTrace created) ∧
        ∀ steps ending, History Swirl.simulation.announced scene steps ending →
          ∃ final, ending = .ok final ∧ SceneStands created scene steps final ∧
            ∀ dropped last,
              Yields (Scene.drop Swirl.simulation.announced (some final)) dropped last →
                last = .ok () ∧ SceneEnds created steps dropped := by
  obtain ⟨buffer, hbuffer⟩ := hbuffer
  obtain ⟨room, hparticles⟩ := hparticles
  have hinit : Ensures (Swirl.simulation.announced.init files particles) fun trace next =>
      SwirlBuildTrace files particles.shaders trace next.objects :=
    ensures_observe_bind fun _ => Swirl.ensures_init hparticles hfresh
  obtain ⟨result, rfl, hcreate⟩ := ensures_create hbuffer hinit _ _ h
  have hasked := speaks_create Swirl.speaksAs_nothing.announced files particles config _ _ h
  have halive : aliveAfter 0 (deviceTrace created) =
      some (leftBy (Scene.owned Swirl.owned) result + 0) :=
    hcreate.aliveAfter_eq (fun _ _ hbuild alive => hbuild.aliveAfter_eq alive) 0
  rw [add_zero] at halive
  cases result with
  | error error => exact .inl ⟨error, rfl, halive, hasked⟩
  | ok scene =>
    obtain ⟨hconfig, -⟩ := returns_create files _ particles config _ _ h scene rfl
    refine .inr ⟨scene, rfl, hcreate.isLive, ?_, fun steps ending hhistory => ?_⟩
    · exact (hcreate.grantsAll_eq fun _ _ hbuild => hbuild.grantsAll_eq).symm
    · have hroom : ∃ buffer, sourceBuffer scene.config.shaders = .ok buffer :=
        ⟨buffer, by rw [hconfig, hbuffer]⟩
      have hcount : ∃ count, scene.config.gridVertexCount = .ok count := by
        rw [hconfig]
        exact gridVertexCount_ok hgrid
      obtain ⟨final, rfl, hstands⟩ :=
        hhistory.stands hcreate.isLive halive hasked hroom hcount
      exact ⟨final, rfl, hstands, fun _ _ hdropped => hstands.ends hdropped⟩

/-- A device that has one vertex array left refuses that of the particles, which are not drawn then,
and the scene is used and dropped as ever. -/
theorem scene_lifetime_last_vertex_array :
    (∃ buffer, sourceBuffer ({} : SceneConfig).shaders = .ok buffer) ∧
      ({} : SceneConfig).gridResolution.toNat < 2 ^ 29 - 1 ∧
      ∃ created scene,
        Yields (Scene.create (fun _ => .absent) Swirl.simulation.announced { shaders := {} } {})
          created (.ok (.ok scene)) ∧
        scene.particles.objects = none ∧
        ∃ steps final dropped,
          History Swirl.simulation.announced scene steps (.ok final) ∧
          steps.map SceneStep.operation = [.deinit] ∧
          SceneStands created scene steps final ∧ SceneEnds created steps dropped := by
  let world : World := { device := { script := { vertexArraysLeft := some 1 } } }
  let handler := World.answerOther World.answerGraphics
  have hbuffer : ∃ buffer, sourceBuffer ({} : SceneConfig).shaders = .ok buffer := ⟨_, rfl⟩
  have hgrid : ({} : SceneConfig).gridResolution.toNat < 2 ^ 29 - 1 := by decide
  obtain ⟨created, hcreated⟩ := yields_run handler
    (Scene.create (fun _ => .absent) Swirl.simulation.announced { shaders := {} } {}) world
  have hrun : ((((Scene.create (fun _ => .absent) Swirl.simulation.announced
      { shaders := {} } {}).run handler world).1.toOption.bind Except.toOption).any
        fun scene => scene.particles.objects.isNone) = true := by
    decide +kernel
  rcases scene_lifetime hbuffer hbuffer rfl hgrid hcreated with
    ⟨error, herror, -⟩ | ⟨scene, hscene, -, -, hlifetime⟩
  · rw [herror] at hrun
    cases hrun
  · rw [hscene] at hcreated hrun
    have hobjects : scene.particles.objects = none := Option.isNone_iff_eq_none.mp hrun
    obtain ⟨exchanges, hyields⟩ := yields_run handler
      (SceneOperation.deinit.perform Swirl.simulation.announced scene) world
    obtain ⟨final, hfinal, -⟩ := custody_deinit Swirl.keepsAccount.announced scene _ _ hyields
    rw [hfinal] at hyields
    have hhistory : History Swirl.simulation.announced scene [⟨.deinit, exchanges⟩] (.ok final) :=
      .step .deinit hyields (.still final)
    obtain ⟨_, hending, hstands, hends⟩ := hlifetime _ _ hhistory
    obtain rfl := Except.ok.inj hending
    obtain ⟨dropped, hdropped⟩ := yields_run handler
      (Scene.drop Swirl.simulation.announced (some final)) world
    exact ⟨hbuffer, hgrid, created, scene, hcreated, hobjects, _, final, dropped, hhistory, rfl,
      hstands, (hends _ _ hdropped).2⟩

end Swirl

end Shaderbox
