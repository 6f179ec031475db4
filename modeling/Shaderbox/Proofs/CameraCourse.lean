import Shaderbox.Proofs.CameraBounds

/-!
# What a camera makes of a run of frames

A frame has three ways to change a camera: it scrolls, it turns the camera by a drag, or it pans by
one. A drag needs two frames in which the cursor moved, the present one and one before it, however
long ago and whatever was held then. So the course of a camera is told from the frames: what each of
them touches, by how much, and that those that ask for nothing could be left out.
-/

namespace Shaderbox

namespace EventData

/-- Where the cursor moved to in a frame, if it did. -/
def moved? (data : EventData) : Option (Float32 × Float32) :=
  if data.mouseMoved then some (data.mouseX, data.mouseY) else none

/-- Whether a frame asks nothing of a camera, whatever is held in it. -/
def isIdle (data : EventData) : Bool := !data.mouseMoved && data.wheelDelta == 0

end EventData

/-- Where the cursor moved to last in some frames, if it moved in any. -/
def lastMoved? (frames : List EventData) : Option (Float32 × Float32) :=
  (frames.filterMap EventData.moved?).getLast?

/-- What moved the cursor last is looked for from the end. -/
theorem lastMoved?_append (front back : List EventData) :
    lastMoved? (front ++ back) = (lastMoved? back).or (lastMoved? front) := by
  unfold lastMoved?
  rw [List.filterMap_append, List.getLast?_append]

theorem lastMoved?_singleton (frame : EventData) : lastMoved? [frame] = frame.moved? := by
  unfold lastMoved?
  cases hmoved : frame.moved? <;> simp [hmoved]

/-- If the cursor moved to some place, then in one of the frames. -/
theorem exists_moved_of_lastMoved? {frames : List EventData} {place : Float32 × Float32}
    (h : lastMoved? frames = some place) : ∃ frame ∈ frames, frame.mouseMoved = true := by
  obtain ⟨frame, hframe, hmoved⟩ := List.mem_filterMap.mp (List.mem_of_getLast? h)
  unfold EventData.moved? at hmoved
  split at hmoved
  · exact ⟨frame, hframe, ‹_›⟩
  · contradiction

namespace OrbitCamera

variable {camera zoomed next : OrbitCamera} {data : EventData}

/-- Whether an amount of scroll leads from a camera to a distance. -/
structure Zooms (camera : OrbitCamera) (wheelDelta distance : Float32) : Prop where
  still : (wheelDelta == 0) = true → distance = camera.distance
  scrolled : (wheelDelta == 0) = false →
    clampSingle (camera.distance * atLeast 0.1 (1 - zoomSpeed * wheelDelta))
      camera.minDistance camera.maxDistance = .ok distance

/-- What can become of a camera in a frame that leads to the given distance. -/
inductive Becomes (camera : OrbitCamera) (data : EventData) (distance : Float32) :
    OrbitCamera → Prop where
  /-- The cursor did not move. -/
  | still (hmoved : data.mouseMoved = false) : Becomes camera data distance { camera with distance }
  /-- The cursor moved, and nothing is dragged, as it is the first time or nothing is held. -/
  | noted (hmoved : data.mouseMoved = true)
      (hfree : camera.lastMouse = none ∨ data.rotatePressed = false ∧ data.panPressed = false) :
      Becomes camera data distance
        { camera with distance, lastMouse := some (data.mouseX, data.mouseY) }
  | turned {x y pitch : Float32} (hmoved : data.mouseMoved = true)
      (hlast : camera.lastMouse = some (x, y)) (hrotate : data.rotatePressed = true)
      (hpitch : clampSingle (camera.pitch + (data.mouseY - y) * rotateSpeed)
        (-pitchLimit) pitchLimit = .ok pitch) :
      Becomes camera data distance
        { camera with
          distance
          yaw := camera.yaw - (data.mouseX - x) * rotateSpeed
          pitch
          lastMouse := some (data.mouseX, data.mouseY) }
  | panned {x y : Float32} (hmoved : data.mouseMoved = true)
      (hlast : camera.lastMouse = some (x, y)) (hrotate : data.rotatePressed = false)
      (hpan : data.panPressed = true) :
      Becomes camera data distance
        { camera with
          distance
          target := ({ camera with distance }.pan (data.mouseX - x) (data.mouseY - y)).target
          lastMouse := some (data.mouseX, data.mouseY) }

/-- Zooming changes the distance alone. -/
theorem zooms_of_zoom {wheelDelta : Float32} (h : camera.zoom wheelDelta = .ok zoomed) :
    ∃ distance, zoomed = { camera with distance } ∧ camera.Zooms wheelDelta distance := by
  unfold zoom at h
  split at h
  · rename_i hstill
    obtain rfl := Except.ok.inj h
    exact ⟨camera.distance, rfl, fun _ => rfl, fun hscrolled => by simp [hstill] at hscrolled⟩
  · rename_i hscrolled
    dsimp only at h
    cases hdistance : clampSingle (camera.distance * atLeast 0.1 (1 - zoomSpeed * wheelDelta))
        camera.minDistance camera.maxDistance with
    | error cause =>
      rw [hdistance] at h
      contradiction
    | ok distance =>
      rw [hdistance] at h
      obtain rfl := Except.ok.inj h
      exact ⟨distance, rfl, fun hstill => absurd hstill hscrolled, fun _ => hdistance⟩

/-- A drag turns the camera, pans it, or does nothing, by what is held. -/
theorem becomes_of_drag {x y distance : Float32} (hmoved : data.mouseMoved = true)
    (hlast : camera.lastMouse = some (x, y))
    (h : drag { camera with distance, lastMouse := some (data.mouseX, data.mouseY) } data
      (data.mouseX - x) (data.mouseY - y) = .ok next) :
    camera.Becomes data distance next := by
  unfold drag at h
  split at h
  · rename_i hrotate
    unfold rotate at h
    cases hpitch : clampSingle (camera.pitch + (data.mouseY - y) * rotateSpeed)
        (-pitchLimit) pitchLimit with
    | error cause =>
      rw [hpitch] at h
      contradiction
    | ok pitch =>
      rw [hpitch] at h
      obtain rfl := Except.ok.inj h
      exact .turned hmoved hlast hrotate hpitch
  · rename_i hrotate
    rw [Bool.not_eq_true] at hrotate
    split at h
    · rename_i hpan
      obtain rfl := Except.ok.inj h
      exact .panned hmoved hlast hrotate hpan
    · rename_i hpan
      rw [Bool.not_eq_true] at hpan
      obtain rfl := Except.ok.inj h
      exact .noted hmoved (.inr ⟨hrotate, hpan⟩)

/-- Every frame leads to a distance and does one of the things that frames do. -/
theorem becomes_of_update (h : camera.update data = .ok next) :
    ∃ distance, camera.Zooms data.wheelDelta distance ∧ camera.Becomes data distance next := by
  unfold update at h
  cases hzoom : camera.zoom data.wheelDelta with
  | error cause =>
    rw [hzoom] at h
    contradiction
  | ok zoomed =>
    rw [hzoom] at h
    obtain ⟨distance, rfl, hzooms⟩ := zooms_of_zoom hzoom
    refine ⟨distance, hzooms, ?_⟩
    -- The zoom leaves what is remembered of the cursor, so the drag is told from the first camera.
    change (if data.mouseMoved then _ else _) = Except.ok next at h
    split at h
    · rename_i hmoved
      dsimp only at h
      split at h
      · rename_i hlast
        obtain rfl := Except.ok.inj h
        exact .noted hmoved (.inl hlast)
      · rename_i hlast
        exact becomes_of_drag hmoved hlast h
    · rename_i hmoved
      obtain rfl := Except.ok.inj h
      exact .still (Bool.eq_false_iff.mpr hmoved)

/-- Whether two cameras have the same settings, which no input changes. -/
structure SameSettings (camera next : OrbitCamera) : Prop where
  minDistance : next.minDistance = camera.minDistance
  maxDistance : next.maxDistance = camera.maxDistance
  fovY : next.fovY = camera.fovY
  near : next.near = camera.near
  far : next.far = camera.far

theorem SameSettings.refl (camera : OrbitCamera) : SameSettings camera camera :=
  ⟨rfl, rfl, rfl, rfl, rfl⟩

theorem SameSettings.trans {final : OrbitCamera} (h : SameSettings camera next)
    (hnext : SameSettings next final) : SameSettings camera final where
  minDistance := hnext.minDistance.trans h.minDistance
  maxDistance := hnext.maxDistance.trans h.maxDistance
  fovY := hnext.fovY.trans h.fovY
  near := hnext.near.trans h.near
  far := hnext.far.trans h.far

section Step

variable {distance : Float32}

theorem Becomes.sameSettings (h : camera.Becomes data distance next) :
    SameSettings camera next := by
  cases h <;> exact ⟨rfl, rfl, rfl, rfl, rfl⟩

theorem Becomes.distance_eq (h : camera.Becomes data distance next) :
    next.distance = distance := by
  cases h <;> rfl

/-- A frame in which the cursor moves replaces what was remembered of it, any other keeps it. -/
theorem Becomes.lastMouse_eq (h : camera.Becomes data distance next) :
    next.lastMouse = data.moved?.or camera.lastMouse := by
  unfold EventData.moved?
  cases h with
  | still hmoved => rw [hmoved]; rfl
  | noted hmoved => rw [hmoved]; rfl
  | turned hmoved => rw [hmoved]; rfl
  | panned hmoved => rw [hmoved]; rfl

/-- Only a drag with the rotate flag changes the angles. -/
theorem Becomes.of_angles_ne (h : camera.Becomes data distance next)
    (hchanged : next.yaw ≠ camera.yaw ∨ next.pitch ≠ camera.pitch) :
    data.mouseMoved = true ∧ data.rotatePressed = true ∧
      ∃ place, camera.lastMouse = some place := by
  cases h with
  | turned hmoved hlast hrotate => exact ⟨hmoved, hrotate, _, hlast⟩
  | _ => simp at hchanged

/-- Only a drag with the pan flag, and without the rotate flag, changes the target. -/
theorem Becomes.of_target_ne (h : camera.Becomes data distance next)
    (hchanged : next.target ≠ camera.target) :
    data.mouseMoved = true ∧ data.panPressed = true ∧ data.rotatePressed = false ∧
      ∃ place, camera.lastMouse = some place := by
  cases h with
  | panned hmoved hlast hrotate hpan => exact ⟨hmoved, hpan, hrotate, _, hlast⟩
  | _ => exact absurd rfl hchanged

section Drag

variable {x y : Float32} (hlast : camera.lastMouse = some (x, y))
  (hmoved : data.mouseMoved = true)
include hlast hmoved

/-- A drag with the rotate flag turns the camera by its extent. -/
theorem Becomes.of_rotate (h : camera.Becomes data distance next)
    (hrotate : data.rotatePressed = true) :
    next.yaw = camera.yaw - (data.mouseX - x) * rotateSpeed ∧
      clampSingle (camera.pitch + (data.mouseY - y) * rotateSpeed) (-pitchLimit) pitchLimit =
        .ok next.pitch := by
  cases h with
  | turned _ hplace _ hpitch =>
    obtain ⟨rfl, rfl⟩ := Prod.mk.inj (Option.some.inj (hplace.symm.trans hlast))
    exact ⟨rfl, hpitch⟩
  | _ => simp_all

/-- A drag with the pan flag alone moves the target by its extent. -/
theorem Becomes.of_pan (h : camera.Becomes data distance next)
    (hrotate : data.rotatePressed = false) (hpan : data.panPressed = true) :
    next.target = ({ camera with distance := next.distance }.pan
      (data.mouseX - x) (data.mouseY - y)).target := by
  cases h with
  | panned _ hplace =>
    obtain ⟨rfl, rfl⟩ := Prod.mk.inj (Option.some.inj (hplace.symm.trans hlast))
    rfl
  | _ => simp_all

end Drag

/-- Only scrolling needs bounds that enclose something. -/
theorem update_returns_iff :
    (∃ next, camera.update data = .ok next) ↔
      (data.wheelDelta == 0) = true ∨ camera.minDistance ≤ camera.maxDistance := by
  constructor
  · rintro ⟨next, hnext⟩
    obtain ⟨distance, hzooms, -⟩ := becomes_of_update hnext
    cases hscrolled : data.wheelDelta == 0 with
    | true => exact .inl rfl
    | false => exact .inr (le_of_clampSingle_eq_ok (hzooms.scrolled hscrolled))
  · rintro (hstill | hbounds)
    · have hzoom : camera.zoom data.wheelDelta = .ok camera := if_pos hstill
      obtain ⟨next, hnext, -⟩ := update_ok_of_zoom hzoom
      exact ⟨next, hnext⟩
    · obtain ⟨next, hnext, -⟩ := update_ok hbounds data
      exact ⟨next, hnext⟩

/-- A frame that asks for nothing leaves the camera as it is. -/
theorem update_of_isIdle (h : data.isIdle = true) : camera.update data = .ok camera := by
  obtain ⟨hmoved, hstill⟩ := Bool.and_eq_true_iff.mp h
  have hzoom : camera.zoom data.wheelDelta = .ok camera := if_pos hstill
  rw [Bool.not_eq_true'] at hmoved
  unfold update
  rw [hzoom, hmoved]
  rfl

end Step

/-- What a frame that comes behind others may do to a camera, and does. -/
structure FollowsInput (before : List EventData) (frame : EventData)
    (camera next : OrbitCamera) : Prop where
  lastMouse : next.lastMouse = lastMoved? (before ++ [frame])
  distance : next.distance ≠ camera.distance → (frame.wheelDelta == 0) = false
  angles : next.yaw ≠ camera.yaw ∨ next.pitch ≠ camera.pitch →
    frame.mouseMoved = true ∧ frame.rotatePressed = true ∧
      ∃ earlier ∈ before, earlier.mouseMoved = true
  target : next.target ≠ camera.target →
    frame.mouseMoved = true ∧ frame.panPressed = true ∧ frame.rotatePressed = false ∧
      ∃ earlier ∈ before, earlier.mouseMoved = true
  zoomed : camera.Zooms frame.wheelDelta next.distance
  turned : ∀ x y, lastMoved? before = some (x, y) → frame.mouseMoved = true →
    frame.rotatePressed = true →
      next.yaw = camera.yaw - (frame.mouseX - x) * rotateSpeed ∧
      clampSingle (camera.pitch + (frame.mouseY - y) * rotateSpeed) (-pitchLimit) pitchLimit =
        .ok next.pitch
  panned : ∀ x y, lastMoved? before = some (x, y) → frame.mouseMoved = true →
    frame.rotatePressed = false → frame.panPressed = true →
      next.target =
        ({ camera with distance := next.distance }.pan (frame.mouseX - x) (frame.mouseY - y)).target
  settings : SameSettings camera next

/-- A frame follows the input if what is remembered of the cursor is where it moved to last. -/
theorem followsInput_of_update {before : List EventData} {frame : EventData}
    (hlast : camera.lastMouse = lastMoved? before) (h : camera.update frame = .ok next) :
    FollowsInput before frame camera next := by
  obtain ⟨distance, hzooms, hbecomes⟩ := becomes_of_update h
  have hdistance := hbecomes.distance_eq
  have hearlier : (∃ place, camera.lastMouse = some place) →
      ∃ earlier ∈ before, earlier.mouseMoved = true := by
    rintro ⟨place, hplace⟩
    exact exists_moved_of_lastMoved? (hlast ▸ hplace)
  refine
    { lastMouse := ?_, distance := ?_, angles := ?_, target := ?_, zoomed := ?_, turned := ?_,
      panned := ?_, settings := hbecomes.sameSettings }
  · rw [hbecomes.lastMouse_eq, hlast, lastMoved?_append, lastMoved?_singleton]
  · intro hchanged
    cases hstill : frame.wheelDelta == 0 with
    | true => exact absurd (hdistance.trans (hzooms.still hstill)) hchanged
    | false => rfl
  · intro hchanged
    obtain ⟨hmoved, hrotate, hplace⟩ := hbecomes.of_angles_ne hchanged
    exact ⟨hmoved, hrotate, hearlier hplace⟩
  · intro hchanged
    obtain ⟨hmoved, hpan, hrotate, hplace⟩ := hbecomes.of_target_ne hchanged
    exact ⟨hmoved, hpan, hrotate, hearlier hplace⟩
  · rwa [hdistance]
  · intro x y hplace hmoved hrotate
    exact hbecomes.of_rotate (hlast.trans hplace) hmoved hrotate
  · intro x y hplace hmoved hrotate hpan
    exact hbecomes.of_pan (hlast.trans hplace) hmoved hrotate hpan

/-- Apply the input of frames, one after the other. -/
def updateAll (camera : OrbitCamera) (frames : List EventData) : Except Abort OrbitCamera :=
  frames.foldlM update camera

section Course

variable {frames : List EventData} {final : OrbitCamera}

theorem updateAll_cons (camera : OrbitCamera) (frame : EventData) (rest : List EventData) :
    camera.updateAll (frame :: rest) = (camera.update frame).bind (updateAll · rest) := by
  unfold updateAll
  rw [List.foldlM_cons]
  rfl

theorem updateAll_cons_eq_ok {frame : EventData} {rest : List EventData}
    (h : camera.updateAll (frame :: rest) = .ok final) :
    ∃ next, camera.update frame = .ok next ∧ next.updateAll rest = .ok final := by
  rw [updateAll_cons] at h
  cases hnext : camera.update frame with
  | error cause =>
    rw [hnext] at h
    contradiction
  | ok next =>
    rw [hnext] at h
    exact ⟨next, rfl, h⟩

/-- What is remembered of the cursor after frames is where it moved to last, if it did. -/
theorem lastMouse_updateAll (h : camera.updateAll frames = .ok final) :
    final.lastMouse = (lastMoved? frames).or camera.lastMouse := by
  induction frames generalizing camera with
  | nil =>
    obtain rfl := Except.ok.inj h
    rfl
  | cons frame rest ih =>
    obtain ⟨next, hnext, hrest⟩ := updateAll_cons_eq_ok h
    obtain ⟨distance, -, hbecomes⟩ := becomes_of_update hnext
    have hframes : lastMoved? (frame :: rest) = (lastMoved? rest).or frame.moved? := by
      rw [← lastMoved?_singleton]
      exact lastMoved?_append [frame] rest
    rw [ih hrest, hbecomes.lastMouse_eq, hframes, Option.or_assoc]

theorem sameSettings_updateAll (h : camera.updateAll frames = .ok final) :
    SameSettings camera final := by
  induction frames generalizing camera with
  | nil =>
    obtain rfl := Except.ok.inj h
    exact .refl _
  | cons frame rest ih =>
    obtain ⟨next, hnext, hrest⟩ := updateAll_cons_eq_ok h
    obtain ⟨distance, -, hbecomes⟩ := becomes_of_update hnext
    exact hbecomes.sameSettings.trans (ih hrest)

/-- Frames come to a result unless something is scrolled with bounds that enclose nothing. -/
theorem updateAll_returns_iff :
    (∃ final, camera.updateAll frames = .ok final) ↔
      (∀ frame ∈ frames, (frame.wheelDelta == 0) = true) ∨
        camera.minDistance ≤ camera.maxDistance := by
  induction frames generalizing camera with
  | nil => exact ⟨fun _ => .inl (List.forall_mem_nil _), fun _ => ⟨camera, rfl⟩⟩
  | cons frame rest ih =>
    -- Every frame meets the bounds of the first camera, as no frame changes the settings.
    have hbounds {next : OrbitCamera} (hnext : camera.update frame = .ok next) :
        next.minDistance ≤ next.maxDistance ↔ camera.minDistance ≤ camera.maxDistance := by
      obtain ⟨distance, -, hbecomes⟩ := becomes_of_update hnext
      rw [hbecomes.sameSettings.minDistance, hbecomes.sameSettings.maxDistance]
    rw [List.forall_mem_cons]
    constructor
    · rintro ⟨final, hfinal⟩
      obtain ⟨next, hnext, hrest⟩ := updateAll_cons_eq_ok hfinal
      have hfirst := update_returns_iff.mp ⟨next, hnext⟩
      have hothers := ih.mp ⟨final, hrest⟩
      rw [hbounds hnext] at hothers
      exact and_or_right.mpr ⟨hfirst, hothers⟩
    · intro h
      obtain ⟨next, hnext⟩ : ∃ next, camera.update frame = .ok next :=
        update_returns_iff.mpr (h.imp_left And.left)
      rw [updateAll_cons, hnext]
      exact ih.mpr (h.imp And.right (hbounds hnext).mpr)

/-- Frames that ask for nothing can be left out. -/
theorem updateAll_filter (camera : OrbitCamera) (frames : List EventData) :
    camera.updateAll (frames.filter fun frame => !frame.isIdle) = camera.updateAll frames := by
  induction frames generalizing camera with
  | nil => rfl
  | cons frame rest ih =>
    cases hidle : frame.isIdle with
    | true =>
      rw [List.filter_cons_of_neg (by simp [hidle]), ih, updateAll_cons, update_of_isIdle hidle]
      rfl
    | false =>
      rw [List.filter_cons_of_pos (by simp [hidle]), updateAll_cons, updateAll_cons]
      exact congrArg _ (funext ih)

/-- A camera that has not seen the cursor move follows the input, frame by frame: each frame changes
the distance only by scrolling, the angles only by a drag with the rotate flag, and the target only
by one with the pan flag alone, and a drag is the difference to where the cursor moved to last,
whatever was held in that frame. No frame changes the settings. Frames that ask for nothing can
stand anywhere without making a difference, and only scrolling with bounds that enclose nothing
keeps a run of frames from its end. -/
theorem updateAll_followsInput (hfresh : camera.lastMouse = none) :
    (∀ before frame reached next, camera.updateAll before = .ok reached →
      reached.update frame = .ok next →
        reached.lastMouse = lastMoved? before ∧ FollowsInput before frame reached next) ∧
    (∀ frames final, camera.updateAll frames = .ok final → SameSettings camera final) ∧
    (∀ frames, camera.updateAll (frames.filter fun frame => !frame.isIdle) =
      camera.updateAll frames) ∧
    ∀ frames, (∃ final, camera.updateAll frames = .ok final) ↔
      (∀ frame ∈ frames, (frame.wheelDelta == 0) = true) ∨
        camera.minDistance ≤ camera.maxDistance := by
  refine ⟨?_, fun _ _ => sameSettings_updateAll, updateAll_filter camera,
    fun _ => updateAll_returns_iff⟩
  intro before frame reached next hreached hnext
  have hlast : reached.lastMouse = lastMoved? before := by
    rw [lastMouse_updateAll hreached, hfresh, Option.or_none]
  exact ⟨hlast, followsInput_of_update hlast hnext⟩

/-- A button that goes down while the cursor rests does not make the camera jump: the drag goes back
to where the cursor moved to before, with nothing held. -/
theorem updateAll_followsInput_pressAtRest :
    let first : EventData := { mouseMoved := true }
    let press : EventData := { mouseX := 100, mouseY := 7, rotatePressed := true }
    let last : EventData := { mouseX := 10, mouseMoved := true, rotatePressed := true }
    let camera : OrbitCamera := {}
    camera.lastMouse = none ∧
      camera.updateAll [first, press, last] = camera.updateAll [first, last] ∧
      ∃ reached next, camera.updateAll [first, press] = .ok reached ∧
        reached.update last = .ok next ∧ next.lastMouse = some (10, 0) ∧
        next.yaw = reached.yaw - (10 - 0) * rotateSpeed := by
  intro first press last camera
  have hstill : ∀ frame ∈ [first, press, last], (frame.wheelDelta == 0) = true := by
    decide +kernel
  have hlast : lastMoved? [first, press] = some (0, 0) := rfl
  have hfresh : camera.lastMouse = none := rfl
  obtain ⟨hframe, -, hidle, hreturns⟩ := updateAll_followsInput hfresh
  have hpress : press.isIdle = true := by decide +kernel
  have hkept : [first, press, last].filter (fun frame => !frame.isIdle) = [first, last] := by
    rw [List.filter_cons_of_pos (by rfl), List.filter_cons_of_neg (by rw [hpress]; decide)]
    rfl
  obtain ⟨reached, hreached⟩ := (hreturns [first, press]).mpr (.inl fun frame hmem =>
    hstill frame (List.mem_append_left [last] hmem))
  obtain ⟨next, hnext⟩ := (@update_returns_iff reached last).mpr (.inl (hstill last (by simp)))
  obtain ⟨-, hfollows⟩ := hframe _ _ _ _ hreached hnext
  refine ⟨hfresh, ?_, reached, next, hreached, hnext, hfollows.lastMouse, ?_⟩
  · rw [← hidle [first, press, last], hkept]
  · exact (hfollows.turned 0 0 hlast rfl rfl).1

end Course

end OrbitCamera

end Shaderbox
