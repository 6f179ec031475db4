import Shaderbox.Proofs.WalkDependency

/-!
# Files that are read whole

A file above the cap on sizes is read up to the cap, and an expansion goes on with what was read. A
report tells of a cut only when the expanded text is above the cap as well. So an expansion without
such a report is one of whole files, and stays the same under any greater cap, unless a file was cut
whose expansion fits all the same. The simplest such file is one without directives: what is left of
it has exactly the size of the cap.
-/

namespace Shaderbox

variable {files : Files} {config : ShaderConfig} {top : Path}

/-- Whether a file is there and no larger than a cap. -/
def IsWholeWithin (files : Files) (cap : Nat) (path : Path) : Prop :=
  ∃ content, files path = .file content ∧ content.size ≤ cap

/-- A greater cap reads a file alike if it is whole within the smaller one or cannot be read. -/
theorem loadSource_of_le {cap greater : Nat} {path : Path} (hcap : cap ≤ greater)
    (hroom : greater < sizeMax)
    (hwhole : ∀ source, loadSource files cap path = .ok source → IsWholeWithin files cap path) :
    loadSource files greater path = loadSource files cap path := by
  have hsmall : ¬ sizeMax < cap + 1 := by omega
  have hgreat : ¬ sizeMax < greater + 1 := by omega
  unfold loadSource at hwhole ⊢
  cases hopening : files path with
  | absent => rfl
  | unreadable => simp [hsmall, hgreat]
  | file content =>
    simp only [hopening, hsmall, hgreat, if_false] at hwhole ⊢
    obtain ⟨_, hcontent, hfits⟩ := hwhole _ rfl
    obtain rfl := Opening.file.inj (hopening.symm.trans hcontent)
    simp [hfits, hfits.trans hcap]

/-- Of the files that a walk tried to read, those that can be read are listed as read. -/
theorem walkFile_mem_files {budget : Int} {path : Path} {source : LoadedSource}
    (hpath : path ∈ (walkFile files config top budget).attempts)
    (hload : loadSource files config.maxSourceSize path = .ok source) :
    path ∈ (walkFile files config top budget).events.filterMap IncludeEvent.file? := by
  obtain ⟨event, hevent, hattempt⟩ := List.mem_filterMap.mp hpath
  let listed (event : IncludeEvent) : Prop := event.attempt? = some path →
    event.file? = some path
  have hfailed (other : Path) (fault : LoadFault) (_ : True)
      (hfault : loadSource files config.maxSourceSize other = .error fault) :
      listed (.failed other fault) := by
    intro hother
    obtain rfl := Option.some.inj hother
    rw [hload] at hfault
    contradiction
  have hlisted : listed event :=
    walkFile_events (by simp [listed, IncludeEvent.attempt?]) (by simp [listed, IncludeEvent.attempt?])
      (by simp [listed, IncludeEvent.attempt?]) (fun _ _ _ _ h => h) hfailed (fun _ _ _ => trivial)
      budget trivial event hevent
  exact List.mem_filterMap.mpr ⟨event, hevent, hlisted hattempt⟩

/-- When all files that a walk read are whole, it is the walk under any greater cap. -/
theorem walkFile_of_whole {budget : Int} {cap : Nat} (hcap : config.maxSourceSize ≤ cap)
    (hroom : cap < sizeMax)
    (hwhole : ∀ path ∈ (walkFile files config top budget).events.filterMap IncludeEvent.file?,
      IsWholeWithin files config.maxSourceSize path) :
    walkFile files { config with maxSourceSize := cap } top budget =
      walkFile files config top budget := by
  have hroot : ({ config with maxSourceSize := cap } : ShaderConfig).root = config.root := rfl
  refine walkFile_congr hroot budget fun path hpath => ?_
  refine loadSource_of_le hcap hroom fun source hload => ?_
  exact hwhole path (walkFile_mem_files hpath hload)

/-- What an expansion promises that does not report a cut: every file that was read was read whole,
and what it comes to is what whole files come to under any greater cap. -/
def ExpandsWhole (files : Files) (config : ShaderConfig) (top : Path) (budget : Int)
    (expansion : Expansion) : Prop :=
  (∀ path ∈ expansion.report.files, IsWholeWithin files config.maxSourceSize path) ∧
    ∀ cap, config.maxSourceSize ≤ cap → cap < sizeMax →
      expandBounded files { config with maxSourceSize := cap } top budget = .ok expansion

/-- An expansion that does not report a cut is one of whole files exactly where every cut of a file
that was read leaves the expanded text above the cap; a cut is reported when that is so, and only
then. -/
theorem expandBounded_whole_iff (files : Files) (config : ShaderConfig) (top : Path)
    (budget : Int) (hsize : config.maxSourceSize < sizeMax) :
    ∃ expansion, expandBounded files config top budget = .ok expansion ∧
      (expansion.report.truncated = true ↔
        config.maxSourceSize < Text.extent (walkFile files config top budget).text) ∧
      ((expansion.report.truncated = false → ExpandsWhole files config top budget expansion) ↔
        ∀ path ∈ expansion.report.files, ¬ IsWholeWithin files config.maxSourceSize path →
          config.maxSourceSize < Text.extent (walkFile files config top budget).text) := by
  have htext : (Expansion.ofWalk top (walkFile files config top budget)).text.utf8ByteSize =
      Text.extent (walkFile files config top budget).text := Text.utf8ByteSize_ofList _
  have htruncated := Expansion.truncated_capped top config.maxSourceSize
    (Expansion.truncated_ofWalk top (walkFile files config top budget))
  rw [htext] at htruncated
  refine ⟨_, expandBounded_eq hsize budget, htruncated, ?_, ?_⟩
  · intro hpromise path hpath hcut
    rw [← htruncated]
    by_contra huntold
    exact hcut ((hpromise (Bool.eq_false_iff.mpr huntold)).1 path hpath)
  · intro htold huntold
    have hfits : Text.extent (walkFile files config top budget).text ≤ config.maxSourceSize := by
      rw [← Nat.not_lt, ← htruncated, huntold]
      exact Bool.false_ne_true
    have hwhole : ∀ path ∈ ((Expansion.ofWalk top (walkFile files config top budget)).capped top
        config.maxSourceSize).report.files, IsWholeWithin files config.maxSourceSize path := by
      intro path hpath
      by_contra hcut
      exact absurd (htold path hpath hcut) (Nat.not_lt.mpr hfits)
    refine ⟨hwhole, fun cap hcap hroom => ?_⟩
    have hroom' : ({ config with maxSourceSize := cap } : ShaderConfig).maxSourceSize < sizeMax :=
      hroom
    rw [Expansion.files_capped] at hwhole
    rw [← htext] at hfits
    rw [expandBounded_eq hroom', walkFile_of_whole hcap hroom hwhole,
      Expansion.capped_eq_self _ _ hfits, Expansion.capped_eq_self _ _ (hfits.trans hcap)]

/-- A file of ten bytes without directives. -/
def digitsFile : Files := fun path =>
  if path.text = "shaders/a.glsl" then .file "0123456789".toUTF8 else .absent

/-- Under a cap of four bytes only four bytes of the file are expanded, and nothing tells of that. -/
theorem expandBounded_cut_untold :
    ({ maxSourceSize := 4 } : ShaderConfig).maxSourceSize < sizeMax ∧
      ∃ expansion, expandBounded digitsFile { maxSourceSize := 4 } ⟨"shaders/a.glsl"⟩ 8 =
          .ok expansion ∧
        expansion.text = "0123" ∧ expansion.report = ⟨[], [⟨"shaders/a.glsl"⟩]⟩ ∧
        expansion.report.truncated = false ∧
        ¬ IsWholeWithin digitsFile 4 ⟨"shaders/a.glsl"⟩ ∧
        ¬ ExpandsWhole digitsFile { maxSourceSize := 4 } ⟨"shaders/a.glsl"⟩ 8 expansion := by
  have hwalk : walkFile digitsFile { maxSourceSize := 4 } ⟨"shaders/a.glsl"⟩ 8 =
      ⟨"0123".toList, 7, [.opened ⟨"shaders/a.glsl"⟩ ⟨"0123", false, true⟩]⟩ := by
    decide +kernel
  have hroom : ({ maxSourceSize := 4 } : ShaderConfig).maxSourceSize < sizeMax := by decide
  have hcut : ¬ IsWholeWithin digitsFile 4 ⟨"shaders/a.glsl"⟩ := by
    rintro ⟨content, hcontent, hfits⟩
    obtain rfl := Opening.file.inj hcontent
    exact absurd hfits (by decide)
  obtain ⟨expansion, hexpansion, htruncated, hwhole⟩ :=
    expandBounded_whole_iff digitsFile { maxSourceSize := 4 } ⟨"shaders/a.glsl"⟩ 8 hroom
  have hsame := hexpansion.symm.trans (expandBounded_eq hroom 8)
  rw [hwalk] at htruncated hwhole hsame
  obtain rfl := Except.ok.inj hsame
  have huntold := Bool.eq_false_iff.mpr (mt htruncated.mp (by decide))
  refine ⟨hroom, _, hexpansion, rfl, rfl, huntold, hcut, fun hclaim => ?_⟩
  exact absurd (hwhole.mp (fun _ => hclaim) _ List.mem_cons_self hcut) (by decide)

end Shaderbox
