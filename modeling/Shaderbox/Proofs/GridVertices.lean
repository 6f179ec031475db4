import Shaderbox.Proofs.FramePasses
import Shaderbox.Proofs.Reload

/-!
# How many vertices a grid is drawn with

A grid of so many cells on each side has one boundary more, and for each boundary two lines. Its
resolution is any word of 32 bits, the number of its vertices must be a signed one, and in between
the resolution is taken as signed too. So there is a greatest grid that is counted right. Above it
the count leaves its range and ends the frame, until the resolution is so great that it comes back
as a small negative number: then the frame goes on with no vertices, or less than none.
-/

namespace Shaderbox

open Interaction

namespace SceneConfig

variable {config : SceneConfig}

/-- The vertices that a grid has: four for each boundary. -/
def gridVertices (config : SceneConfig) : Int := 4 * (config.gridResolution.toNat + 1)

/-- As many vertices as a signed word can tell are counted. -/
theorem gridVertexCount_of_le (h : config.gridVertices ≤ Number.wordMax) :
    config.gridVertexCount = .ok config.gridVertices := by
  unfold gridVertices Number.wordMax at *
  unfold gridVertexCount
  rw [Number.signedWord_of_le (by unfold Number.wordMax; omega)]
  unfold Number.wordMax Number.wordMin
  dsimp only
  rw [if_neg (by omega), if_neg (by omega)]

/-- More vertices are not counted, except that from some resolution on the count is not positive. -/
theorem gridVertexCount_of_gt (h : Number.wordMax < config.gridVertices) :
    config.gridVertexCount =
      if config.gridResolution.toNat = 2147483647 then .error .additionOverflow
      else if config.gridVertices < 4 * 4294967296 + Number.wordMin then
        .error .multiplicationOverflow
      else .ok (config.gridVertices - 4 * 4294967296) := by
  have hbits : config.gridResolution.toNat < 4294967296 := config.gridResolution.toNat_lt
  unfold gridVertices Number.wordMax at *
  unfold gridVertexCount
  rcases Nat.lt_or_ge 2147483647 config.gridResolution.toNat with hunsigned | hsigned
  -- Above the signed words the resolution itself is negative, and the sum cannot overflow.
  · rw [Number.signedWord_of_gt (by unfold Number.wordMax; omega) hbits]
    unfold Number.wordMax Number.wordMin
    dsimp only
    rw [if_neg (by omega), if_neg (show ¬ config.gridResolution.toNat = 2147483647 by omega)]
    split
    · rw [if_pos (by omega)]
    · rw [if_neg (by omega)]
      exact congrArg _ (by omega)
  · rw [Number.signedWord_of_le (by unfold Number.wordMax; omega)]
    unfold Number.wordMax Number.wordMin
    dsimp only
    rcases hsigned.eq_or_lt with hgreatest | hless
    · rw [if_pos (by omega), if_pos hgreatest]
    · rw [if_neg (by omega), if_pos (by omega), if_neg hless.ne, if_pos (by omega)]

/-- What is asked of a count of the grid's vertices: there are some, their number is right if a
signed word can tell it, and no coarser grid has more of them. -/
structure CountsGrid (config : SceneConfig) (count : Int) : Prop where
  pos : 0 < count
  eq_gridVertices : config.gridVertices ≤ Number.wordMax → count = config.gridVertices
  monotone : ∀ coarser : SceneConfig, coarser.gridResolution ≤ config.gridResolution →
    ∀ fewer, coarser.gridVertexCount = .ok fewer → fewer ≤ count

theorem gridVertices_le_of_le {coarser : SceneConfig}
    (h : coarser.gridResolution ≤ config.gridResolution) :
    coarser.gridVertices ≤ config.gridVertices := by
  have hresolution : coarser.gridResolution.toNat ≤ config.gridResolution.toNat := h
  unfold gridVertices
  omega

/-- A grid is counted as it should be exactly if a signed word can tell its vertices. -/
theorem exists_countsGrid_iff :
    (∃ count, config.gridVertexCount = .ok count ∧ config.CountsGrid count) ↔
      config.gridVertices ≤ Number.wordMax := by
  constructor
  · rintro ⟨count, hcount, hcounts⟩
    by_contra hfits
    have hbits : config.gridResolution.toNat < 4294967296 := config.gridResolution.toNat_lt
    have hpos := hcounts.pos
    rw [gridVertexCount_of_gt (not_le.mp hfits)] at hcount
    split at hcount
    · cases hcount
    · split at hcount
      · cases hcount
      · obtain rfl := Except.ok.inj hcount
        unfold gridVertices at hpos
        omega
  · intro hfits
    refine ⟨_, gridVertexCount_of_le hfits, ?_, fun _ => rfl, ?_⟩
    · unfold gridVertices
      omega
    · intro coarser hcoarser fewer hfewer
      have hle := gridVertices_le_of_le hcoarser
      rw [gridVertexCount_of_le (hle.trans hfits)] at hfewer
      obtain rfl := Except.ok.inj hfewer
      exact hle

end SceneConfig

/-- The vertices of a grid of moderate resolution can be counted. -/
theorem gridVertexCount_ok {config : SceneConfig}
    (h : config.gridResolution.toNat < 2 ^ 29 - 1) :
    ∃ count, config.gridVertexCount = .ok count := by
  refine ⟨_, SceneConfig.gridVertexCount_of_le ?_⟩
  unfold SceneConfig.gridVertices Number.wordMax
  omega

section Frames

variable {σ : Type} (simulation : ParticleSimulation σ) (view viewProjection : Mat4)
  {scene : Scene σ} {objects : SceneObjects} {exchanges : List (Exchange (Effects Graphics))}
  {outcome : Except Abort (Scene σ)}

/-- A frame whose grid is counted begins with the pass that draws it. -/
theorem openingCalls_prefix_of_yields (hlive : scene.objects = some objects) {count : Int}
    (hcount : scene.config.gridVertexCount = .ok count)
    (h : Yields (scene.render simulation view viewProjection) exchanges outcome) :
    Scene.openingCalls scene.config objects (simulation.boxSize scene.particles) viewProjection
      count <+: (callTrace exchanges).map Exchange.request := by
  rw [Scene.render_eq simulation view viewProjection hlive] at h
  have hopening := Scene.issues_openFrame scene.config objects
    (simulation.boxSize scene.particles) viewProjection hcount
  rcases yields_bind_iff.mp h with ⟨cause, hfront, -⟩ | ⟨front, _, rest, rfl, hfront, -⟩
  · obtain ⟨-, _, hends⟩ := hopening.yields hfront
    cases hends
  · rw [callTrace, List.filterMap_append, List.map_append, ← (hopening.yields hfront).1]
    exact List.prefix_append _ _

/-- A frame whose grid is not counted ends before anything is drawn. -/
theorem calls_of_yields_overflow (hlive : scene.objects = some objects) {cause : Abort}
    (hcount : scene.config.gridVertexCount = .error cause)
    (h : Yields (scene.render simulation view viewProjection) exchanges outcome) :
    outcome = .error cause ∧
      (callTrace exchanges).map Exchange.request =
        Scene.gridPreparation objects ++ .useProgram (some objects.programs.grid.id) ::
          (Turn.grid scene.config objects.programs (simulation.boxSize scene.particles)
            viewProjection 0).uploads := by
  rw [Scene.render_eq simulation view viewProjection hlive] at h
  obtain ⟨hcalls, hends⟩ := (Scene.issues_openFrame_overflow scene.config objects
    (simulation.boxSize scene.particles) viewProjection hcount).bind_abort.yields h
  exact ⟨hends, hcalls⟩

/-- Whatever the resolution of the grid, the passes of a frame tell what became of the count of its
vertices. The grid is drawn as it should be, with a number of vertices that is positive, right, and
no less than for any coarser grid, exactly if a signed word can tell how many there are. Every other
resolution ends the frame before anything is drawn, or goes on with a count that is not positive. -/
theorem render_countsGrid_iff (hlive : scene.objects = some objects)
    (h : Yields (scene.render simulation view viewProjection) exchanges outcome) :
    let calls := (callTrace exchanges).map Exchange.request
    let opening := Scene.openingCalls scene.config objects (simulation.boxSize scene.particles)
      viewProjection
    ((∃ count, scene.config.gridVertexCount = .ok count ∧ opening count <+: calls ∧
        scene.config.CountsGrid count) ↔ scene.config.gridVertices ≤ Number.wordMax) ∧
      (∀ count, scene.config.gridVertexCount = .ok count → opening count <+: calls) ∧
      (∀ cause, scene.config.gridVertexCount = .error cause → outcome = .error cause ∧
        calls = Scene.gridPreparation objects ++ .useProgram (some objects.programs.grid.id) ::
          (Turn.grid scene.config objects.programs (simulation.boxSize scene.particles)
            viewProjection 0).uploads) ∧
      (Number.wordMax < scene.config.gridVertices →
        scene.config.gridVertexCount =
          if scene.config.gridResolution.toNat = 2147483647 then .error .additionOverflow
          else if scene.config.gridVertices < 4 * 4294967296 + Number.wordMin then
            .error .multiplicationOverflow
          else .ok (scene.config.gridVertices - 4 * 4294967296)) := by
  intro calls opening
  have hopening (count : Int) (hcount : scene.config.gridVertexCount = .ok count) :
      opening count <+: calls :=
    openingCalls_prefix_of_yields simulation view viewProjection hlive hcount h
  refine ⟨?_, hopening, fun cause hcause =>
    calls_of_yields_overflow simulation view viewProjection hlive hcause h,
    SceneConfig.gridVertexCount_of_gt⟩
  rw [← SceneConfig.exists_countsGrid_iff]
  constructor
  · rintro ⟨count, hcount, -, hcounts⟩
    exact ⟨count, hcount, hcounts⟩
  · rintro ⟨count, hcount, hcounts⟩
    exact ⟨count, hcount, hopening count hcount, hcounts⟩

end Frames

/-- A grid of the greatest resolution is drawn with no vertices at all. -/
theorem render_countsGrid_iff_greatestResolution :
    let scene : Scene ObservedParticles :=
      ⟨{ gridResolution := 4294967295 }, emptyScene.objects, ⟨1, ⟨1, 1, 1⟩⟩, []⟩
    ∃ objects exchanges outcome, scene.objects = some objects ∧
      Yields (scene.render observedParticles .identity .identity) exchanges outcome ∧
      Scene.openingCalls scene.config objects 1 .identity 0 <+:
        (callTrace exchanges).map Exchange.request ∧
      ∀ count, scene.config.gridVertexCount = .ok count → ¬ scene.config.CountsGrid count := by
  intro scene
  let objects : SceneObjects := ⟨⟨⟨⟨1⟩, "basic"⟩, ⟨[]⟩, ⟨⟨2⟩, "grid"⟩, ⟨[]⟩⟩, ⟨⟨3⟩⟩⟩
  have hlive : scene.objects = some objects := rfl
  have hlarge : Number.wordMax < scene.config.gridVertices := by decide
  obtain ⟨exchanges, h⟩ := yields_run (World.answerOther World.answerGraphics)
    (scene.render observedParticles .identity .identity) {}
  obtain ⟨hiff, hopening, -, hcount⟩ :=
    render_countsGrid_iff observedParticles .identity .identity hlive h
  refine ⟨objects, exchanges, _, hlive, h, hopening 0 ?_, fun count hok hcounts => ?_⟩
  · have hwrapped : scene.config.gridVertices - 4 * 4294967296 = 0 := by decide
    rw [hcount hlarge, if_neg (by decide), if_neg (by decide), hwrapped]
  · exact not_le.mpr hlarge (hiff.mp ⟨count, hok, hopening count hok, hcounts⟩)

end Shaderbox
