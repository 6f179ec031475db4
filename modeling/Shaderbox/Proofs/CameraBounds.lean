import Shaderbox.Camera

/-!
# The camera takes any input

A clamp fails only when its bounds enclose nothing. The bounds on the pitch are fixed, and those on
the distance are never changed and only matter when something is scrolled; so a camera that begins
with good bounds never fails.
-/

namespace Shaderbox

/-- Bounds that enclose something can be kept. -/
theorem clampSingle_ok {x low high : Float32} (h : low ≤ high) :
    ∃ clamped, clampSingle x low high = .ok clamped := by
  rw [clampSingle, if_pos h]
  exact ⟨_, rfl⟩

/-- Only bounds that enclose something can be kept. -/
theorem le_of_clampSingle_eq_ok {x low high clamped : Float32}
    (h : clampSingle x low high = .ok clamped) : low ≤ high := by
  unfold clampSingle at h
  split at h
  · assumption
  · contradiction

namespace OrbitCamera

variable {camera : OrbitCamera} {data : EventData}

/-- The bounds on the pitch enclose something, so every drag can be applied. -/
theorem drag_ok (camera : OrbitCamera) (data : EventData) (dx dy : Float32) :
    ∃ next, camera.drag data dx dy = .ok next ∧
      next.minDistance = camera.minDistance ∧ next.maxDistance = camera.maxDistance := by
  have hpitch : -pitchLimit ≤ pitchLimit := by decide +kernel
  unfold drag rotate
  split
  · obtain ⟨pitch, hclamped⟩ := clampSingle_ok hpitch
    rw [hclamped]
    exact ⟨_, rfl, rfl, rfl⟩
  · split
    · exact ⟨_, rfl, rfl, rfl⟩
    · exact ⟨_, rfl, rfl, rfl⟩

/-- What can fail in a frame is the zoom alone. -/
theorem update_ok_of_zoom {zoomed : OrbitCamera} (h : camera.zoom data.wheelDelta = .ok zoomed) :
    ∃ next, camera.update data = .ok next ∧
      next.minDistance = zoomed.minDistance ∧ next.maxDistance = zoomed.maxDistance := by
  unfold update
  rw [h]
  change ∃ next, (if data.mouseMoved then _ else _) = Except.ok next ∧ _
  split
  · split
    · exact ⟨_, rfl, rfl, rfl⟩
    · exact drag_ok _ _ _ _
  · exact ⟨_, rfl, rfl, rfl⟩

/-- A camera whose bounds on the distance enclose something takes any input, and keeps them. -/
theorem update_ok (h : camera.minDistance ≤ camera.maxDistance) (data : EventData) :
    ∃ next, camera.update data = .ok next ∧ next.minDistance ≤ next.maxDistance := by
  obtain ⟨zoomed, hzoom, hbounds⟩ : ∃ zoomed, camera.zoom data.wheelDelta = .ok zoomed ∧
      zoomed.minDistance ≤ zoomed.maxDistance := by
    unfold zoom
    split
    · exact ⟨camera, rfl, h⟩
    · obtain ⟨distance, hdistance⟩ := clampSingle_ok h
      dsimp only
      rw [hdistance]
      exact ⟨_, rfl, h⟩
  obtain ⟨next, hnext, hleast, hgreatest⟩ := update_ok_of_zoom hzoom
  exact ⟨next, hnext, by rw [hleast, hgreatest]; exact hbounds⟩

end OrbitCamera

end Shaderbox
