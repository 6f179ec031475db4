import Shaderbox.Proofs.Confinement
import Mathlib.Data.List.Chain

/-!
# Files that include themselves

A directive that names its own file or the top-level one is left in place. Names are compared by
their components, in which a leading `.` counts and every other one does not, so two spellings of one
file may pass for two files. Under a shader root that is written out they never do, since its own
beginning stands in front of every name: no file is expanded directly inside its own expansion, and
the top-level file is read once. Under the empty root the name itself comes first, and a file that
asks for itself behind `./` is expanded once more.
-/

namespace Shaderbox

open Relation

namespace Path

/-- Whether two paths lead to the same file: they differ in nothing but their dots. -/
def SameFile (path other : Path) : Prop :=
  path.components.filter (· ≠ .current) = other.components.filter (· ≠ .current)

/-- Whether a path has a leading dot, which is the only one that counts. -/
def StartsHere (path : Path) : Prop :=
  .current ∈ path.components

/-- Whether a name has no components but plain ones. -/
def IsPlain (name : Path) : Prop :=
  ∀ component ∈ name.components, ∃ plain, component = .normal plain

theorem IsPlain.isConfined {name : Path} (h : name.IsPlain) : name.IsConfined := by
  rw [isConfined_iff, staysInside, List.all_eq_true]
  intro component hmem
  obtain ⟨plain, rfl⟩ := h component hmem
  rfl

theorem current_not_mem_segments (text : List Char) :
    Component.current ∉ (segments text).filterMap Component.ofSegment? := by
  intro hmem
  obtain ⟨segment, -, hsegment⟩ := List.mem_filterMap.mp hmem
  unfold Component.ofSegment? at hsegment
  split at hsegment
  · contradiction
  · split at hsegment <;> cases hsegment

/-- A path is told by its leading dot and the file that it leads to. -/
theorem components_eq (path : Path) :
    path.StartsHere ∧ path.components = .current :: path.components.filter (· ≠ .current) ∨
      ¬ path.StartsHere ∧ path.components = path.components.filter (· ≠ .current) := by
  have hadded := current_not_mem_segments path.text.toList
  have hkept : ((segments path.text.toList).filterMap Component.ofSegment?).filter (· ≠ .current) =
      (segments path.text.toList).filterMap Component.ofSegment? := by
    rw [List.filter_eq_self]
    intro component hmem
    simpa using fun hcurrent : component = .current => hadded (hcurrent ▸ hmem)
  unfold StartsHere components beginning
  rw [List.filter_append, hkept]
  split
  · exact .inr ⟨by simp [hadded], by simp⟩
  · split
    · exact .inl ⟨by simp, by simp⟩
    · exact .inr ⟨by simp [hadded], by simp⟩

/-- Two spellings pass for the same if they lead to the same file and both or neither of them have a
leading dot. -/
theorem same_iff {path other : Path} :
    path.same other = true ↔ path.SameFile other ∧ (path.StartsHere ↔ other.StartsHere) := by
  unfold same SameFile
  rw [decide_eq_true_iff]
  constructor
  · intro hsame
    exact ⟨congrArg _ hsame, by rw [StartsHere, hsame]; rfl⟩
  · rintro ⟨hfile, hdots⟩
    rcases path.components_eq with ⟨hhere, heq⟩ | ⟨hhere, heq⟩
    · rcases other.components_eq with ⟨-, hother⟩ | ⟨hthere, -⟩
      · rw [heq, hother, hfile]
      · exact absurd (hdots.mp hhere) hthere
    · rcases other.components_eq with ⟨hthere, -⟩ | ⟨-, hother⟩
      · exact absurd (hdots.mpr hthere) hhere
      · rw [heq, hother, hfile]

/-- Under a root that is written out a name has a leading dot exactly if the root has. -/
theorem startsHere_join_iff {root name : Path} (hroot : root.text ≠ "")
    (hname : name.isAbsolute = false) : (root.join name).StartsHere ↔ root.StartsHere := by
  unfold StartsHere
  rw [components_join_of_text_ne_empty hroot hname, List.mem_append]
  exact or_iff_left (current_not_mem_segments _)

end Path

section Standings

variable {files : Files} {config : ShaderConfig} {top : Path}

/-- Whether no file under way was included by itself, and none that was tried later is the top-level
file. -/
structure Standing.IsApart (top : Path) (standing : Standing) : Prop where
  nested : (standing.underWay.map OpenFile.path).IsChain fun inner outer => ¬ inner.SameFile outer
  once : ∀ first rest, standing.attempts = first :: rest → ∀ path ∈ rest, ¬ path.SameFile top
  tried : ∀ file ∈ standing.underWay, file.path ∈ standing.attempts

namespace Standing.IsApart

variable {standing next : Standing}

/-- Leaving off lines or the innermost file keeps files apart. -/
theorem of_suffix (h : standing.IsApart top)
    (hpaths : next.underWay.map OpenFile.path <:+ standing.underWay.map OpenFile.path)
    (hattempts : next.attempts = standing.attempts) : next.IsApart top where
  nested := h.nested.suffix hpaths
  once := hattempts ▸ h.once
  tried := by
    intro file hfile
    obtain ⟨other, hother, hpath⟩ := List.mem_map.mp (hpaths.subset (List.mem_map_of_mem hfile))
    rw [hattempts, ← hpath]
    exact h.tried other hother

/-- Reading a file that is neither the innermost one nor the top-level one keeps files apart. -/
theorem enter (h : standing.IsApart top) {target : Path}
    (hinner : ∀ path ∈ (standing.underWay.map OpenFile.path).head?, ¬ target.SameFile path)
    (htop : standing.attempts ≠ [] → ¬ target.SameFile top) :
    (standing.enter files config target).IsApart top where
  nested := by
    unfold Standing.enter
    split
    · exact h.nested
    · exact List.isChain_cons.mpr ⟨hinner, h.nested⟩
  once := by
    intro first rest hattempts path hpath
    rw [attempts_enter] at hattempts
    cases hbefore : standing.attempts with
    | nil =>
      rw [hbefore] at hattempts
      cases hattempts
      contradiction
    | cons earlier others =>
      rw [hbefore, List.cons_append] at hattempts
      cases hattempts
      rcases List.mem_append.mp hpath with hother | htarget
      · exact h.once _ _ hbefore path hother
      · rw [List.mem_singleton.mp htarget]
        exact htop (by simp [hbefore])
  tried := by
    intro file hfile
    rw [attempts_enter, List.mem_append]
    unfold Standing.enter at hfile
    split at hfile
    · exact .inl (h.tried file hfile)
    · rcases List.mem_cons.mp hfile with rfl | hfile
      · exact .inr List.mem_cons_self
      · exact .inl (h.tried file hfile)

/-- Where all paths that are tried agree with the top-level one in their leading dots, each step
keeps files apart: a file that is entered would otherwise have been recognized. -/
theorem advance (h : standing.IsApart top) (hstep : Advances files config top standing next)
    (halike : ∀ path ∈ next.attempts, (path.StartsHere ↔ top.StartsHere)) : next.IsApart top := by
  cases hstep with
  | finished => exact h.of_suffix (List.suffix_cons _ _) rfl
  | plain => exact h.of_suffix (List.suffix_refl _) rfl
  | malformed => exact h.of_suffix (List.suffix_refl _) (by simp [attempts, IncludeEvent.attempt?])
  | selfInclude =>
    exact h.of_suffix (List.suffix_cons _ _) (by simp [attempts, IncludeEvent.attempt?])
  | refused => exact h.of_suffix (List.suffix_refl _) (by simp [attempts, IncludeEvent.attempt?])
  | @entered path line text rest outer budget events hmark hwell hother =>
    obtain ⟨hpath, htop⟩ := not_or.mp hother
    have hhere : path ∈ Standing.attempts ⟨⟨path, line, text :: rest⟩ :: outer, budget + 1, events⟩ :=
      h.tried _ List.mem_cons_self
    rw [attempts_enter, List.forall_mem_append, List.forall_mem_singleton] at halike
    obtain ⟨halike, htarget⟩ := halike
    have hkept : Standing.IsApart top ⟨⟨path, line + 1, rest⟩ :: outer, budget, events⟩ :=
      h.of_suffix (List.suffix_refl _) rfl
    refine hkept.enter ?_ fun _ hfile => htop (Path.same_iff.mpr ⟨hfile, htarget⟩)
    intro inner hinner hfile
    obtain rfl := Option.some.inj hinner
    exact hpath (Path.same_iff.mpr ⟨hfile, htarget.trans (halike path hhere).symm⟩)

end Standing.IsApart

/-- All that is reached has tried only what the walk tries. -/
theorem Reaches.attempts_prefix {budget : Int} {standing : Standing}
    (h : Reaches files config top budget standing) :
    standing.attempts <+: (walkFile files config top budget).attempts := by
  obtain ⟨added, hadded, -⟩ := attempts_of_advances h.to_walkFile
  exact ⟨added, hadded.symm⟩

/-- Where all paths that are tried agree with the top-level one in their leading dots, files stay
apart all through an expansion. -/
theorem Reaches.isApart {budget : Int} {standing : Standing}
    (h : Reaches files config top budget standing)
    (halike : ∀ path ∈ (walkFile files config top budget).attempts,
      (path.StartsHere ↔ top.StartsHere)) : standing.IsApart top := by
  induction h with
  | refl =>
    have hnothing : ∀ left : Nat, Standing.IsApart top ⟨[], left, []⟩ := fun left =>
      ⟨List.isChain_nil, by simp [Standing.attempts], by simp⟩
    unfold Standing.initial
    split
    · exact (hnothing 0).of_suffix (List.suffix_refl _) rfl
    · exact (hnothing _).enter (by simp) fun htried => absurd rfl htried
  | tail hreached hstep ih =>
    have hnext := Reaches.attempts_prefix (ReflTransGen.tail hreached hstep)
    exact ih.advance hstep fun path hpath => halike path (hnext.subset hpath)

end Standings

section Reading

variable (files : Files) (config : ShaderConfig) (top : Path)

/-- What was read was tried. -/
theorem files_subset_attempts (events : List IncludeEvent) :
    events.filterMap IncludeEvent.file? ⊆ events.filterMap IncludeEvent.attempt? := by
  intro path hpath
  obtain ⟨event, hevent, hfile⟩ := List.mem_filterMap.mp hpath
  refine List.mem_filterMap.mpr ⟨event, hevent, ?_⟩
  cases event <;> first | exact hfile | cases hfile

/-- Unless nothing is read, the first file that is read is the one that a walk is given, and what is
read later was tried later. -/
theorem readWith_files (splice : Nat → Path → Walk) (budget : Nat) (path : Path) :
    (readWith files config top splice budget path).events.filterMap IncludeEvent.file? = [] ∨
      ∃ rest tried,
        (readWith files config top splice budget path).events.filterMap IncludeEvent.file? =
            path :: rest ∧
          (readWith files config top splice budget path).attempts = path :: tried ∧
          rest ⊆ tried := by
  unfold readWith
  split
  · exact .inl rfl
  · exact .inr ⟨_, _, rfl, rfl, files_subset_attempts _⟩

theorem walkFile_files (budget : Int) :
    (walkFile files config top budget).events.filterMap IncludeEvent.file? = [] ∨
      ∃ rest tried,
        (walkFile files config top budget).events.filterMap IncludeEvent.file? = top :: rest ∧
          (walkFile files config top budget).attempts = top :: tried ∧ rest ⊆ tried := by
  unfold walkFile
  split
  · exact .inl rfl
  · rename_i budget _
    cases budget with
    | zero => exact readWith_files files config top _ 0 top
    | succ depth => exact readWith_files files config top _ (depth + 1) top

/-- The files that are reported as read are those that the walk read. -/
theorem files_of_expandBounded {budget : Int} {expansion : Expansion}
    (h : expandBounded files config top budget = .ok expansion) :
    expansion.report.files =
      (walkFile files config top budget).events.filterMap IncludeEvent.file? := by
  unfold expandBounded at h
  dsimp only at h
  split at h
  · contradiction
  · rw [← Except.ok.inj h, Expansion.files_capped]
    rfl

end Reading

/-- What a guard against files that include themselves promises: no file is expanded directly inside
its own expansion, and the top-level file is read once. -/
structure GuardsItself (files : Files) (config : ShaderConfig) (top : Path) (budget : Int) :
    Prop where
  apart : ∀ standing, Reaches files config top budget standing → ∀ front inner outer back,
    standing.underWay = front ++ inner :: outer :: back → ¬ inner.path.SameFile outer.path
  once : ∀ expansion, expandBounded files config top budget = .ok expansion →
    ∀ first rest, expansion.report.files = first :: rest →
      first = top ∧ ∀ path ∈ rest, ¬ path.SameFile first

/-- The guard is complete where all paths that are tried agree with the top-level one in their leading
dots. -/
theorem guardsItself_of_alike {files : Files} {config : ShaderConfig} {top : Path} {budget : Int}
    (halike : ∀ path ∈ (walkFile files config top budget).attempts,
      (path.StartsHere ↔ top.StartsHere)) : GuardsItself files config top budget where
  apart := by
    intro standing hreached front inner outer back hunderWay
    have hnested := (hreached.isApart halike).nested
    rw [hunderWay, List.map_append] at hnested
    exact (List.isChain_cons_cons.mp (hnested.right_of_append)).1
  once := by
    intro expansion hexpansion first rest hfiles
    rw [files_of_expandBounded files config top hexpansion] at hfiles
    rcases walkFile_files files config top budget with hnone | ⟨read, tried, hread, htried, hsubset⟩
    · rw [hnone] at hfiles
      contradiction
    · rw [hread] at hfiles
      cases hfiles
      have honce := ((reaches_walkFile files config top budget).isApart halike).once
      exact ⟨rfl, fun path hpath => honce _ _ htried path (hsubset hpath)⟩

/-- Under a root that is written out all paths agree in their leading dots. -/
theorem alike_of_root {files : Files} {config : ShaderConfig} {name : Path} {budget : Int}
    (hroot : config.root.text ≠ "") (hname : name.IsPlain) :
    ∀ path ∈ (walkFile files config (config.path name) budget).attempts,
      (path.StartsHere ↔ (config.path name).StartsHere) := by
  have htop := Path.startsHere_join_iff hroot hname.isConfined.1
  intro path hpath
  rcases walkFile_attempts files config (config.path name) budget with hnone | ⟨rest, hrest, hunder⟩
  · simp [hnone] at hpath
  · rw [hrest] at hpath
    rcases List.mem_cons.mp hpath with rfl | hpath
    · rfl
    · obtain ⟨⟨other, hother, rfl⟩, -⟩ := hunder path hpath
      exact (Path.startsHere_join_iff hroot hother.1).trans htop.symm

/-- A file that asks for itself behind a leading dot. -/
def dottedFile : Files := fun path =>
  if path.same ⟨"a.glsl"⟩ || path.same ⟨"./a.glsl"⟩ then .file "#include \"./a.glsl\"\n".toUTF8
  else .absent

/-- Under the empty root that file is read once more inside its own expansion. -/
theorem expandBounded_dottedFile :
    ∃ expansion, expandBounded dottedFile { root := ⟨""⟩ } ⟨"a.glsl"⟩ 8 = .ok expansion ∧
      expansion.text = "#include \"./a.glsl\"\n\n#line 1\n\n" ∧
      expansion.report = ⟨[.selfInclude ⟨"./a.glsl"⟩ 1], [⟨"a.glsl"⟩, ⟨"./a.glsl"⟩]⟩ := by
  have hwalk : walkFile dottedFile { root := ⟨""⟩ } ⟨"a.glsl"⟩ 8 =
      ⟨"#include \"./a.glsl\"\n\n#line 1\n\n".toList, 6,
        [.opened ⟨"a.glsl"⟩ ⟨"#include \"./a.glsl\"\n", true, true⟩,
          .opened ⟨"./a.glsl"⟩ ⟨"#include \"./a.glsl\"\n", true, true⟩,
          .selfIncluded ⟨"./a.glsl"⟩ 1 ⟨"./a.glsl"⟩]⟩ := by
    decide +kernel
  have hroom : ({ root := ⟨""⟩ } : ShaderConfig).maxSourceSize < sizeMax := by decide
  refine ⟨_, expandBounded_eq hroom 8, ?_, ?_⟩
  · rw [hwalk]
    rfl
  · rw [hwalk]
    rfl

theorem not_guardsItself_dottedFile :
    ¬ GuardsItself dottedFile { root := ⟨""⟩ } ⟨"a.glsl"⟩ 8 := by
  intro hguards
  obtain ⟨expansion, hexpansion, -, hreport⟩ := expandBounded_dottedFile
  have hfiles : expansion.report.files = [⟨"a.glsl"⟩, ⟨"./a.glsl"⟩] := by rw [hreport]
  have honce := (hguards.once expansion hexpansion _ _ hfiles).2 _ List.mem_cons_self
  exact honce rfl

/-- The guard is complete for all files exactly where the root is written out. Where it is not, the
guard still holds of every expansion that meets no name with a leading dot. -/
theorem guardsItself_iff (root : Path) :
    ((∀ files config name budget, config.root = root → name.IsPlain →
        GuardsItself files config (config.path name) budget) ↔ root.text ≠ "") ∧
      ∀ files config name budget, config.root = root →
        (∀ path ∈ (walkFile files config (config.path name) budget).attempts,
          (path.StartsHere ↔ root.StartsHere)) →
        GuardsItself files config (config.path name) budget := by
  refine ⟨⟨?_, ?_⟩, ?_⟩
  · rintro hguards hroot
    obtain ⟨root⟩ := root
    obtain rfl : root = "" := hroot
    refine not_guardsItself_dottedFile (hguards _ _ ⟨"a.glsl"⟩ _ rfl ?_)
    have hcomponents : (Path.mk "a.glsl").components = [.normal "a.glsl"] := by decide +kernel
    rw [Path.IsPlain, hcomponents, List.forall_mem_singleton]
    exact ⟨_, rfl⟩
  · rintro hroot files config name budget rfl hname
    exact guardsItself_of_alike (alike_of_root hroot hname)
  · rintro files config name budget rfl halike
    refine guardsItself_of_alike fun path hpath => (halike path hpath).trans ?_
    rcases walkFile_attempts files config (config.path name) budget with hnone | ⟨rest, hrest, -⟩
    · simp [hnone] at hpath
    · exact (halike _ (hrest ▸ List.mem_cons_self)).symm

end Shaderbox
