import Shaderbox.Number.Word
import Shaderbox.Proofs.HostCourse
import Mathlib.Algebra.Group.Nat.Defs

/-!
# What a course tells of sizes

A window that opens is measured, and its viewport covers it. From then on each size that is given
is followed, which takes two exchanges, or none if it has no area. So the course alone says which
size is in use and which viewport is in force: the last size given, and the last with an area.
-/

namespace Shaderbox

open Interaction

variable {σ : Type}

/-- Width and height of the viewport that covers a size. -/
def PixelSize.viewport (size : PixelSize) : Int × Int :=
  (Number.signedWord size.width, Number.signedWord size.height)

/-- The viewport is as wide and as high as the size, if both fit into a signed word. -/
theorem PixelSize.viewport_of_lt {size : PixelSize} (hwidth : size.width < 2 ^ 31)
    (hheight : size.height < 2 ^ 31) : size.viewport = (↑size.width, ↑size.height) := by
  have hword {count : Nat} (h : count < 2 ^ 31) : Number.signedWord count = count :=
    Number.signedWord_of_le (by unfold Number.wordMax; omega)
  rw [viewport, hword hwidth, hword hheight]

theorem PixelSize.nonzero?_eq_some_iff {size area : PixelSize} :
    size.nonzero? = some area ↔ size.width ≠ 0 ∧ size.height ≠ 0 ∧ size = area := by
  unfold nonzero?
  split
  · rename_i hzero
    simp only [reduceCtorEq, false_iff]
    rintro ⟨hwidth, hheight, -⟩
    exact hzero.elim hwidth hheight
  · rename_i hnonzero
    obtain ⟨hwidth, hheight⟩ := not_or.mp hnonzero
    simp [hwidth, hheight]

namespace Exchange

/-- Setting the viewport that covers a size. -/
abbrev covering (size : PixelSize) : Exchange (Hosting σ) :=
  ⟨.world (.graphics (.setViewport (Number.signedWord size.width)
    (Number.signedWord size.height))), ()⟩

/-- Resizing the surface. -/
abbrev resizing (size : PixelSize) : Exchange (Hosting σ) := .window (.resizeSurface size) ()

/-- The viewport that is set. -/
def viewport? : Exchange (Hosting σ) → Option (Int × Int)
  | ⟨.world (.graphics (.setViewport width height)), _⟩ => some (width, height)
  | _ => none

theorem viewport?_covering (size : PixelSize) :
    (covering size : Exchange (Hosting σ)).viewport? = some size.viewport := rfl

/-- The size that the surface is resized to. -/
def resized? : Exchange (Hosting σ) → Option PixelSize
  | ⟨.world (.window (.resizeSurface size)), _⟩ => some size
  | _ => none

/-- The size that the window is measured at. -/
def measured? : Exchange (Hosting σ) → Option PixelSize
  | ⟨.world (.window .innerSize), size⟩ => some size
  | _ => none

/-- The size that an open window is given: that of an event which the application let pass, or that
which the window is measured at. -/
def given? : Exchange (Hosting σ) → Option PixelSize
  | ⟨.app (.windowEvent (.resized size)) _, .ok (.continue, _)⟩ => some size
  | exchange => exchange.measured?

/-- Whether the viewport or the surface changes. -/
def displays (exchange : Exchange (Hosting σ)) : Bool :=
  exchange.viewport?.isSome || exchange.resized?.isSome

/-- Whether an exchange has nothing to do with sizes. -/
def isStill (exchange : Exchange (Hosting σ)) : Bool :=
  !(exchange.opens || exchange.createsWindow || exchange.given?.isSome || exchange.displays)

theorem isStill_iff {exchange : Exchange (Hosting σ)} : exchange.isStill = true ↔
    exchange.opens = false ∧ exchange.createsWindow = false ∧ exchange.given? = none ∧
      exchange.viewport? = none ∧ exchange.resized? = none := by
  simp [isStill, displays, and_assoc]

/-- Whether the application is called for an event. -/
def offers : Exchange (Hosting σ) → Bool
  | ⟨.app (.input ..) _, _⟩ => true
  | ⟨.app (.windowEvent _) _, _⟩ => true
  | _ => false

/-- Whether an exchange has nothing to do with sizes, nor with events for the application. -/
def isPassive (exchange : Exchange (Hosting σ)) : Bool := exchange.isStill && !exchange.offers

theorem isPassive_iff {exchange : Exchange (Hosting σ)} :
    exchange.isPassive = true ↔ exchange.isStill = true ∧ exchange.offers = false := by
  simp [isPassive]

end Exchange

namespace Course

/-- The exchanges that follow a size: without an area it is only remembered. -/
def following (size : PixelSize) : Course σ :=
  size.nonzero?.toList.flatMap fun area => [.resizing area, .covering area]

/-- What was exchanged since a window was made. -/
def sinceCreation (past : Course σ) : Course σ :=
  past.rtakeWhile fun exchange => !exchange.createsWindow

/-- The size of the window when it was made. -/
def sizeAtCreation (past : Course σ) : Option PixelSize :=
  (sinceCreation past).findSome? Exchange.measured?

/-- The sizes that the window was given since it was opened. -/
def sizesGiven (past : Course σ) : List PixelSize :=
  (sinceOpening past).filterMap Exchange.given?

/-- The viewport that was set last. -/
def viewportInForce (past : Course σ) : Option (Int × Int) :=
  (past.filterMap Exchange.viewport?).getLast?

/-- Whether a window was made that was not measured yet. -/
def IsFresh (past : Course σ) : Prop :=
  ∃ front made middle, past = front ++ [made] ++ middle ∧ made.createsWindow = true ∧
    ∀ exchange ∈ middle, exchange.isStill = true

/-- Whether a window was made, and its viewport covers it. -/
structure Covers (created : PixelSize) (past : Course σ) : Prop where
  measured : sizeAtCreation past = some created
  covered : viewportInForce past = some created.viewport

/-- How the sizes of an open window show. -/
structure Shows (inUse : PixelSize) (past : Course σ) : Prop where
  exists_created : ∃ created, sizeAtCreation past = some created ∧
    -- the last size is in use, and the viewport covers the last one with an area
    inUse = (sizesGiven past).getLastD created ∧
    viewportInForce past =
      some (((sizesGiven past).filterMap PixelSize.nonzero?).getLastD created).viewport
  followed : (sinceOpening past).filter Exchange.displays = (sizesGiven past).flatMap following

section Following

variable {size : PixelSize}

theorem mem_following {exchange : Exchange (Hosting σ)} (h : exchange ∈ following size) :
    exchange.opens = false ∧ exchange.createsWindow = false ∧ exchange.given? = none ∧
      exchange.displays = true := by
  obtain ⟨area, -, hmem⟩ := List.mem_flatMap.mp h
  rcases List.mem_pair.mp hmem with rfl | rfl <;> exact ⟨rfl, rfl, rfl, rfl⟩

theorem filterMap_viewport?_following :
    (following size : Course σ).filterMap Exchange.viewport? =
      size.nonzero?.toList.map PixelSize.viewport := by
  unfold following
  cases size.nonzero? <;> rfl

end Following

section Going

variable {past more : Course σ} {inUse : PixelSize}

theorem sizesGiven_append (past : Course σ) (hopens : ∀ exchange ∈ more, exchange.opens = false) :
    sizesGiven (past ++ more) = sizesGiven past ++ more.filterMap Exchange.given? := by
  rw [sizesGiven, sinceOpening_append past hopens, List.filterMap_append]
  rfl

/-- The size of a window when it was made stays what it was until another one is made. -/
theorem sizeAtCreation_append {created : PixelSize} (h : sizeAtCreation past = some created)
    (hcreates : ∀ exchange ∈ more, exchange.createsWindow = false) :
    sizeAtCreation (past ++ more) = some created := by
  have hsince : sinceCreation (past ++ more) = sinceCreation past ++ more :=
    rtakeWhile_append_of_forall past fun exchange hmem => by simp [hcreates exchange hmem]
  rw [sizeAtCreation, hsince, List.findSome?_append,
    show (sinceCreation past).findSome? Exchange.measured? = some created from h]
  rfl

/-- Sizes that are followed as they are given keep the account. -/
theorem Shows.append (h : Shows inUse past) (sizes : List PixelSize)
    (hkeeps : ∀ exchange ∈ more, exchange.opens = false ∧ exchange.createsWindow = false)
    (hgiven : more.filterMap Exchange.given? = sizes)
    (hviewport : more.filterMap Exchange.viewport? =
      (sizes.filterMap PixelSize.nonzero?).map PixelSize.viewport)
    (hdisplays : more.filter Exchange.displays = sizes.flatMap following) :
    Shows (sizes.getLastD inUse) (past ++ more) := by
  have hopens : ∀ exchange ∈ more, exchange.opens = false := fun exchange hmem =>
    (hkeeps exchange hmem).1
  have hsizes : sizesGiven (past ++ more) = sizesGiven past ++ sizes := by
    rw [sizesGiven_append past hopens, hgiven]
  obtain ⟨created, hcreated, hinUse, hforce⟩ := h.exists_created
  refine ⟨⟨created, sizeAtCreation_append hcreated fun exchange hmem => (hkeeps exchange hmem).2,
    ?_, ?_⟩, ?_⟩
  · rw [hsizes, hinUse]
    cases hlast : sizes.getLast? <;> simp [List.getLastD_eq_getLast?, hlast]
  · unfold viewportInForce at hforce ⊢
    rw [hsizes, List.filterMap_append, List.filterMap_append, hviewport, List.getLast?_append,
      hforce, List.getLast?_map]
    cases hlast : (sizes.filterMap PixelSize.nonzero?).getLast? <;>
      simp [List.getLastD_eq_getLast?, hlast]
  · rw [sinceOpening_append past hopens, List.filter_append, h.followed, hdisplays, hsizes,
      List.flatMap_append]

/-- Where nothing has to do with sizes they stay as they are. -/
theorem Shows.append_still (h : Shows inUse past)
    (hstill : ∀ exchange ∈ more, exchange.isStill = true) : Shows inUse (past ++ more) := by
  have hnothing (exchange : Exchange (Hosting σ)) (hmem : exchange ∈ more) :=
    Exchange.isStill_iff.mp (hstill exchange hmem)
  refine h.append [] (fun exchange hmem => ?_) ?_ ?_ ?_
  · obtain ⟨hopens, hcreates, -⟩ := hnothing exchange hmem
    exact ⟨hopens, hcreates⟩
  · exact List.filterMap_eq_nil_iff.mpr fun exchange hmem => (hnothing exchange hmem).2.2.1
  · exact List.filterMap_eq_nil_iff.mpr fun exchange hmem => (hnothing exchange hmem).2.2.2.1
  · refine List.filter_eq_nil_iff.mpr fun exchange hmem => ?_
    obtain ⟨-, -, -, hviewport, hresized⟩ := hnothing exchange hmem
    simp [Exchange.displays, hviewport, hresized]

theorem Shows.concat_still {exchange : Exchange (Hosting σ)} (h : Shows inUse past)
    (hstill : exchange.isStill = true) : Shows inUse (past ++ [exchange]) :=
  h.append_still (List.forall_mem_singleton.mpr hstill)

/-- A size that is given is taken into use and followed. -/
theorem Shows.append_given {exchange : Exchange (Hosting σ)} {size : PixelSize}
    (h : Shows inUse past) (hgiven : exchange.given? = some size)
    (hopens : exchange.opens = false) (hcreates : exchange.createsWindow = false)
    (hdisplays : exchange.displays = false) :
    Shows size (past ++ exchange :: following size) := by
  obtain ⟨hviewport, -⟩ : exchange.viewport? = none ∧ exchange.resized? = none := by
    simpa [Exchange.displays] using hdisplays
  refine h.append [size] ?_ ?_ ?_ ?_
  · exact List.forall_mem_cons.mpr ⟨⟨hopens, hcreates⟩, fun other hmem =>
      ⟨(mem_following hmem).1, (mem_following hmem).2.1⟩⟩
  · rw [List.filterMap_cons_some hgiven, List.filterMap_eq_nil_iff.mpr fun other hmem =>
      (mem_following hmem).2.2.1]
  · rw [List.filterMap_cons_none hviewport, filterMap_viewport?_following]
    cases hnonzero : size.nonzero? <;> simp [hnonzero]
  · rw [List.filter_cons_of_neg (by simp [hdisplays]), List.filter_eq_self.mpr fun other hmem =>
      (mem_following hmem).2.2.2]
    simp

end Going

section Opening

variable {past : Course σ} {exchange : Exchange (Hosting σ)} {created : PixelSize}

theorem viewportInForce_concat {viewport : Int × Int} (h : exchange.viewport? = some viewport) :
    viewportInForce (past ++ [exchange]) = some viewport := by
  simp [viewportInForce, h]

theorem viewportInForce_concat_of_none (h : exchange.viewport? = none) :
    viewportInForce (past ++ [exchange]) = viewportInForce past := by
  simp [viewportInForce, h]

theorem measured?_of_isStill {exchange : Exchange (Hosting σ)} (h : exchange.isStill = true) :
    exchange.measured? = none := by
  obtain ⟨-, -, hgiven, -⟩ := Exchange.isStill_iff.mp h
  unfold Exchange.given? at hgiven
  split at hgiven
  · contradiction
  · exact hgiven

theorem isFresh_made (past : Course σ) (hmade : exchange.createsWindow = true) :
    IsFresh (past ++ [exchange]) :=
  ⟨past, exchange, [], by simp, hmade, by simp⟩

theorem IsFresh.concat (h : IsFresh past) (hstill : exchange.isStill = true) :
    IsFresh (past ++ [exchange]) := by
  obtain ⟨front, made, middle, rfl, hmade, hmiddle⟩ := h
  refine ⟨front, made, middle ++ [exchange], by simp, hmade, ?_⟩
  exact List.forall_mem_append.mpr ⟨hmiddle, List.forall_mem_singleton.mpr hstill⟩

/-- The size of a window when it was made is the one it is first measured at. -/
theorem IsFresh.measured (h : IsFresh past) (created : PixelSize) :
    sizeAtCreation (past ++ [.window .innerSize created]) = some created := by
  obtain ⟨front, made, middle, rfl, hmade, hmiddle⟩ := h
  have hsince : sinceCreation (front ++ [made] ++ middle ++ [.window .innerSize created]) =
      middle ++ [.window .innerSize created] := by
    unfold sinceCreation
    rw [List.append_assoc _ middle, rtakeWhile_append_of_forall,
      List.rtakeWhile_concat_neg _ _ _ (by simp [hmade]), List.nil_append]
    refine List.forall_mem_append.mpr ⟨fun exchange hmem => ?_, by simp [Exchange.createsWindow]⟩
    simp [(Exchange.isStill_iff.mp (hmiddle exchange hmem)).2.1]
  have hnothing : middle.findSome? Exchange.measured? = none :=
    List.findSome?_eq_none_iff.mpr fun exchange hmem => measured?_of_isStill (hmiddle exchange hmem)
  rw [sizeAtCreation, hsince, List.findSome?_append, hnothing]
  rfl

theorem IsFresh.covers (h : IsFresh past) (created : PixelSize) :
    Covers created (past ++ [.window .innerSize created] ++ [.covering created]) where
  measured := sizeAtCreation_append (h.measured created) (by simp [Exchange.createsWindow])
  covered := viewportInForce_concat (Exchange.viewport?_covering created)

theorem Covers.concat (h : Covers created past) (hcreates : exchange.createsWindow = false)
    (hviewport : exchange.viewport? = none) : Covers created (past ++ [exchange]) where
  measured := sizeAtCreation_append h.measured (by simp [hcreates])
  covered := (viewportInForce_concat_of_none hviewport).trans h.covered

/-- A window that opens shows the size that it was made with. -/
theorem Covers.opened (h : Covers created past) (hopens : exchange.opens = true)
    (hcreates : exchange.createsWindow = false) (hviewport : exchange.viewport? = none) :
    Shows created (past ++ [exchange]) := by
  have hsince : sinceOpening (past ++ [exchange]) = [] := by simp [hopens]
  have hgiven : sizesGiven (past ++ [exchange]) = [] := by simp [sizesGiven, hopens]
  obtain ⟨hcreated, hforce⟩ := h.concat hcreates hviewport
  refine ⟨⟨created, hcreated, ?_, ?_⟩, ?_⟩
  · simp [hgiven]
  · simpa [hgiven] using hforce
  · simp [hsince, hgiven]

end Opening

end Course

end Shaderbox
