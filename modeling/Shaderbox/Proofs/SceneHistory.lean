import Shaderbox.Scene.Basic

/-!
# The life of a scene

A history lists what was done with a scene, and what each operation exchanged with the world. No
operation looks at what the last build of the programs found, so scenes that differ in nothing else
have the same histories. Nor does any operation change the settings: a scene has those that it was
created with, and there was a buffer for its sources then.
-/

namespace Shaderbox

open Interaction

variable {σ : Type}

/-- The scene with what its last build found left out. -/
def Scene.withoutFindings (scene : Scene σ) : Scene σ :=
  { scene with findings := [] }

/-- What can be done with a scene. -/
inductive SceneOperation where
  | update (view : Mat4) (dt : Float32)
  | render (view viewProjection : Mat4)
  | reload (files : Files)
  | deinit

/-- Carry out an operation, and see what becomes of the scene. -/
def SceneOperation.perform (simulation : ParticleSimulation σ) (scene : Scene σ) :
    SceneOperation → Action (Scene σ)
  | .update view dt => scene.update simulation view dt
  | .render view viewProjection => scene.render simulation view viewProjection
  | .reload files => do return (← scene.reload files).2
  | .deinit => scene.deinit simulation

/-- An operation with what it exchanged with the world. -/
structure SceneStep where
  operation : SceneOperation
  exchanges : List (Exchange (Effects Graphics))

/-- The histories that a scene may have, and what each ends with: with a scene, or with an abort in
the last operation. -/
inductive History (simulation : ParticleSimulation σ) :
    Scene σ → List SceneStep → Except Abort (Scene σ) → Prop where
  | still (scene : Scene σ) : History simulation scene [] (.ok scene)
  | aborted {scene : Scene σ} (operation : SceneOperation)
      {exchanges : List (Exchange (Effects Graphics))} {cause : Abort} :
      Yields (operation.perform simulation scene) exchanges (.error cause) →
        History simulation scene [⟨operation, exchanges⟩] (.error cause)
  | step {scene next : Scene σ} (operation : SceneOperation)
      {exchanges : List (Exchange (Effects Graphics))} {rest : List SceneStep}
      {outcome : Except Abort (Scene σ)} :
      Yields (operation.perform simulation scene) exchanges (.ok next) →
        History simulation next rest outcome →
          History simulation scene (⟨operation, exchanges⟩ :: rest) outcome

/-- Every step of a history is made by the scene that the history before it leaves. -/
theorem History.exists_before {simulation : ParticleSimulation σ} {scene : Scene σ}
    {before after : List SceneStep} {step : SceneStep} {ending : Except Abort (Scene σ)}
    (h : History simulation scene (before ++ step :: after) ending) :
    ∃ now outcome, History simulation scene before (.ok now) ∧
      Yields (step.operation.perform simulation now) step.exchanges outcome := by
  induction before generalizing scene with
  | nil =>
    cases h with
    | aborted operation hyields => exact ⟨scene, _, .still scene, hyields⟩
    | step operation hyields => exact ⟨scene, _, .still scene, hyields⟩
  | cons first before ih =>
    rw [List.cons_append] at h
    generalize hsteps : before ++ step :: after = rest at h
    cases h with
    | aborted => simp at hsteps
    | step operation hyields hrest =>
      subst hsteps
      obtain ⟨now, outcome, hbefore, hstep⟩ := ih hrest
      exact ⟨now, outcome, .step operation hyields hbefore, hstep⟩

/-- Of two programs in sequence the second may be replaced by one that goes on alike. -/
theorem bind_bind_congr {α β γ : Type} {program : Action α} {first second : α → Action β}
    {last : β → Action γ} (h : ∀ result, (first result).bind last = (second result).bind last) :
    (program.bind first).bind last = (program.bind second).bind last := by
  rw [bind_assoc, bind_assoc]
  exact congrArg _ (funext h)

/-- What an operation exchanges and what it leaves of the scene do not depend on what the last build
found. -/
theorem perform_withoutFindings (simulation : ParticleSimulation σ) (operation : SceneOperation)
    (scene : Scene σ) :
    (operation.perform simulation scene).bind (fun next => .done next.withoutFindings) =
      (operation.perform simulation scene.withoutFindings).bind
        fun next => .done next.withoutFindings := by
  obtain ⟨config, objects, particles, findings⟩ := scene
  cases objects with
  | none => cases operation <;> rfl
  | some objects =>
    cases operation with
    | update view dt => exact bind_bind_congr fun _ => rfl
    | render view viewProjection => exact bind_bind_congr fun _ => rfl
    | reload files =>
      change (((ScenePrograms.build files config).bind _).bind _).bind _ =
        (((ScenePrograms.build files config).bind _).bind _).bind _
      simp only [Interaction.bind_assoc]
      refine congrArg _ (funext fun result => ?_)
      cases result with
      | error error => rfl
      | ok built =>
        dsimp only
        split
        · rfl
        · rfl
    | deinit => exact bind_bind_congr fun _ => rfl

/-- What a program exchanges does not change when its result is mapped. -/
theorem yields_bind_done {α β : Type} {program : Action α} {map : α → β}
    {exchanges : List (Exchange (Effects Graphics))} {outcome : Except Abort β} :
    Yields (program.bind fun result => .done (map result)) exchanges outcome ↔
      ∃ before, Yields program exchanges before ∧ before.map map = outcome := by
  rw [yields_bind_iff]
  constructor
  · rintro (⟨cause, hyields, rfl⟩ | ⟨first, result, rest, rfl, hyields, hdone⟩)
    · exact ⟨.error cause, hyields, rfl⟩
    · cases hdone
      rw [List.append_nil]
      exact ⟨.ok result, hyields, rfl⟩
  · rintro ⟨before, hyields, rfl⟩
    cases before with
    | error cause => exact .inl ⟨cause, hyields, rfl⟩
    | ok result => exact .inr ⟨exchanges, result, [], by simp, hyields, .done _⟩

section Same

variable {simulation : ParticleSimulation σ} {first second : Scene σ}

/-- Scenes that differ only in what their last builds found go through an operation alike. -/
theorem yields_perform_of_same (hsame : first.withoutFindings = second.withoutFindings)
    {operation : SceneOperation} {exchanges : List (Exchange (Effects Graphics))}
    {outcome : Except Abort (Scene σ)}
    (h : Yields (operation.perform simulation first) exchanges outcome) :
    ∃ other, Yields (operation.perform simulation second) exchanges other ∧
      other.map Scene.withoutFindings = outcome.map Scene.withoutFindings := by
  have hmapped : Yields ((operation.perform simulation first).bind fun next =>
      .done next.withoutFindings) exchanges (outcome.map Scene.withoutFindings) :=
    yields_bind_done.mpr ⟨outcome, h, rfl⟩
  rw [perform_withoutFindings, hsame, ← perform_withoutFindings] at hmapped
  exact yields_bind_done.mp hmapped

/-- Scenes that differ only in what their last builds found have the same histories, which end
alike. -/
theorem History.of_same (hsame : first.withoutFindings = second.withoutFindings)
    {steps : List SceneStep} {outcome : Except Abort (Scene σ)}
    (h : History simulation first steps outcome) :
    ∃ other, History simulation second steps other ∧
      other.map Scene.withoutFindings = outcome.map Scene.withoutFindings := by
  induction h generalizing second with
  | still scene => exact ⟨.ok second, .still second, congrArg Except.ok hsame.symm⟩
  | aborted operation hyields =>
    obtain ⟨other, hother, hend⟩ := yields_perform_of_same hsame hyields
    cases other with
    | error cause =>
      obtain rfl := Except.error.inj hend
      exact ⟨_, .aborted operation hother, rfl⟩
    | ok next => contradiction
  | step operation hyields _ ih =>
    obtain ⟨other, hother, hend⟩ := yields_perform_of_same hsame hyields
    cases other with
    | error cause => contradiction
    | ok next =>
      obtain ⟨final, hfinal, hends⟩ := ih (Except.ok.inj hend).symm
      exact ⟨final, .step operation hother hfinal, hends⟩

end Same

/-- Whether a scene may have a history that ends like this, with what was found left out. -/
def Scene.MayRun (simulation : ParticleSimulation σ) (scene : Scene σ) (steps : List SceneStep)
    (ending : Except Abort (Scene σ)) : Prop :=
  ∃ outcome, History simulation scene steps outcome ∧
    outcome.map Scene.withoutFindings = ending

/-- What the last build found has no bearing on what may become of a scene. -/
theorem mayRun_iff_of_same {first second : Scene σ}
    (hsame : first.withoutFindings = second.withoutFindings) (simulation : ParticleSimulation σ)
    (steps : List SceneStep) (ending : Except Abort (Scene σ)) :
    first.MayRun simulation steps ending ↔ second.MayRun simulation steps ending := by
  constructor
  · rintro ⟨outcome, hhistory, rfl⟩
    exact hhistory.of_same hsame
  · rintro ⟨outcome, hhistory, rfl⟩
    exact hhistory.of_same hsame.symm

section Settings

/-- Whether all results that a program may come to are of some kind. -/
def Returns {α : Type} (program : Action α) (kind : α → Prop) : Prop :=
  ∀ exchanges result, Yields program exchanges (.ok result) → kind result

theorem returns_done {α : Type} {result : α} {kind : α → Prop} (h : kind result) :
    Returns (.done result) kind := by
  intro exchanges other hyields
  cases hyields
  exact h

theorem Returns.bind {α β : Type} {program : Action α} {next : α → Action β}
    {between : α → Prop} {kind : β → Prop} (h : Returns program between)
    (hnext : ∀ result, between result → Returns (next result) kind) :
    Returns (program.bind next) kind := by
  intro exchanges result hyields
  rcases yields_bind_iff.mp hyields with ⟨cause, -, herror⟩ | ⟨_, first, rest, rfl, hfirst, hrest⟩
  · contradiction
  · exact hnext first (h _ _ hfirst) rest result hrest

theorem returns_bind {α β : Type} {program : Action α} {next : α → Action β} {kind : β → Prop}
    (hnext : ∀ result, Returns (next result) kind) : Returns (program.bind next) kind := by
  have hanything : Returns program fun _ => True := fun _ _ _ => trivial
  exact hanything.bind fun result _ => hnext result

/-- A reload keeps the settings and the particles, and a live scene stays live. -/
theorem returns_reload (files : Files) (scene : Scene σ) :
    Returns (scene.reload files) fun answer =>
      answer.2.config = scene.config ∧ answer.2.particles = scene.particles ∧
        answer.2.isLive = scene.isLive := by
  obtain ⟨config, objects, particles, findings⟩ := scene
  cases objects with
  | none => exact returns_done ⟨rfl, rfl, rfl⟩
  | some objects =>
    refine returns_bind fun result => ?_
    cases result with
    | error error => exact returns_done ⟨rfl, rfl, rfl⟩
    | ok built =>
      dsimp only
      split
      · exact returns_bind fun _ => returns_bind fun _ => returns_done ⟨rfl, rfl, rfl⟩
      · exact returns_bind fun _ => returns_bind fun _ => returns_done ⟨rfl, rfl, rfl⟩

theorem returns_performReload (simulation : ParticleSimulation σ) (files : Files)
    (scene : Scene σ) :
    Returns (SceneOperation.perform simulation scene (.reload files)) fun next =>
      next.config = scene.config ∧ next.particles = scene.particles ∧
        next.isLive = scene.isLive :=
  (returns_reload files scene).bind fun _ hanswer => returns_done hanswer

/-- No operation changes the settings of a scene. -/
theorem returns_perform (simulation : ParticleSimulation σ) (operation : SceneOperation)
    (scene : Scene σ) :
    Returns (operation.perform simulation scene) fun next => next.config = scene.config := by
  obtain ⟨config, objects, particles, findings⟩ := scene
  cases objects with
  | none => cases operation <;> exact returns_done rfl
  | some objects =>
    cases operation with
    | update view dt => exact returns_bind fun _ => returns_done rfl
    | render view viewProjection => exact returns_bind fun _ => returns_done rfl
    | reload files =>
      exact fun _ _ hyields => (returns_performReload simulation files _ _ _ hyields).1
    | deinit =>
      refine returns_bind fun _ => returns_bind fun _ => returns_bind fun _ => ?_
      exact returns_bind fun _ => returns_done rfl

/-- The settings of a scene are the same all through its history. -/
theorem History.config_eq {simulation : ParticleSimulation σ} {scene final : Scene σ}
    {steps : List SceneStep} (h : History simulation scene steps (.ok final)) :
    final.config = scene.config := by
  generalize houtcome : Except.ok final = outcome at h
  induction h with
  | still scene =>
    obtain rfl := Except.ok.inj houtcome
    rfl
  | aborted => contradiction
  | step operation hyields _ ih =>
    exact (ih houtcome).trans (returns_perform simulation operation _ _ _ hyields)

/-- A scene is created with the settings asked for, and only if there is a buffer for sources. -/
theorem returns_create (files : Files) (simulation : ParticleSimulation σ) (particles : σ)
    (config : SceneConfig) :
    Returns (Scene.create files simulation particles config) fun result =>
      ∀ scene, result = .ok scene → scene.config = config ∧
        ∃ buffer, sourceBuffer config.shaders = .ok buffer := by
  cases hbuffer : sourceBuffer config.shaders with
  | error cause =>
    intro exchanges result hyields
    unfold Scene.create ScenePrograms.build at hyields
    rw [hbuffer] at hyields
    cases hyields
  | ok buffer =>
    refine returns_bind fun result => ?_
    cases result with
    | error error => exact returns_done fun scene h => by contradiction
    | ok built =>
      refine returns_bind fun answer => ?_
      cases answer with
      | error reason =>
        refine returns_bind fun _ => returns_done fun scene h => by contradiction
      | ok vertexArray =>
        refine returns_bind fun _ => returns_bind fun _ => returns_bind fun _ => ?_
        refine returns_bind fun _ => returns_bind fun _ => returns_done fun scene h => ?_
        obtain rfl := Except.ok.inj h
        exact ⟨rfl, buffer, rfl⟩

/-- A scene that was created, and whatever was done with it since, has settings for whose sources
there is a buffer. -/
theorem exists_sourceBuffer_of_created {files : Files} {simulation : ParticleSimulation σ}
    {particles : σ} {config : SceneConfig} {exchanges : List (Exchange (Effects Graphics))}
    {scene final : Scene σ} {steps : List SceneStep}
    (hcreated : Yields (Scene.create files simulation particles config) exchanges
      (.ok (.ok scene)))
    (hhistory : History simulation scene steps (.ok final)) :
    ∃ buffer, sourceBuffer final.config.shaders = .ok buffer := by
  obtain ⟨hconfig, hbuffer⟩ := returns_create files simulation particles config _ _ hcreated _ rfl
  rwa [hhistory.config_eq, hconfig]

end Settings

end Shaderbox
