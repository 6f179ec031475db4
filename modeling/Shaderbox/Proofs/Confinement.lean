import Shaderbox.Proofs.ExpansionSteps
import Shaderbox.Proofs.PathJoin
import Shaderbox.Proofs.WalkDependency

/-!
# Includes stay under the shader root

Whatever the files say, an expansion tries to read nothing but the top-level file and paths below
the shader root. A directive with any other name is passed over where it stands, in whatever file it
is met: nothing is opened for it and the budget stays as it is. So what an expansion gives does not
depend on any other file.
-/

namespace Shaderbox

open Relation

variable {files files' : Files} {config : ShaderConfig} {top : Path}

/-- Accepted names are confined. -/
theorem isConfined_of_includeName? {onLine : List Char} {name : Path}
    (h : includeName? onLine = some name) : name.IsConfined := by
  unfold includeName? at h
  dsimp only at h
  split at h
  · cases h
  · split at h
    · cases h
    · split at h
      · cases h
        exact Path.isConfined_iff.mpr ‹_›
      · cases h

/-- The name in a directive that is not malformed is confined. -/
theorem isConfined_directiveName {text : List Char} (h : ¬ IsMalformed text) :
    (directiveName text).IsConfined :=
  isConfined_of_includeName? (includeName?_of_wellFormed h)

/-- A step keeps the budget and reads nothing, or it takes one unit and tries to read the file that
the next line includes by a confined name. -/
theorem Advances.reads {standing next : Standing} (h : Advances files config top standing next) :
    next.attempts = standing.attempts ∧ next.budget = standing.budget ∨
      ∃ text, standing.Meets text ∧ includeMark <+: text ∧ (directiveName text).IsConfined ∧
        next.attempts = standing.attempts ++ [config.path (directiveName text)] ∧
        standing.budget = next.budget + 1 := by
  cases h with
  | entered hmark hwell =>
    refine .inr ⟨_, ⟨_, _, _, _, rfl⟩, hmark, isConfined_directiveName hwell, ?_, ?_⟩
    · exact Standing.attempts_enter _ _ _ _
    · rw [Standing.budget_enter]
  | _ => exact .inl ⟨by simp [Standing.attempts, IncludeEvent.attempt?], rfl⟩

/-- Where an expansion goes on it tries to read only what lies under the shader root. -/
theorem attempts_of_advances {standing final : Standing}
    (h : ReflTransGen (Advances files config top) standing final) :
    ∃ added, final.attempts = standing.attempts ++ added ∧
      ∀ path ∈ added, Path.LiesUnder config.root path := by
  induction h with
  | refl => exact ⟨[], (List.append_nil _).symm, by simp⟩
  | tail _ hstep ih =>
    obtain ⟨added, hadded, hunder⟩ := ih
    rcases hstep.reads with ⟨hsame, -⟩ | ⟨text, -, -, hname, hmore, -⟩
    · exact ⟨added, hsame.trans hadded, hunder⟩
    · refine ⟨added ++ [config.path (directiveName text)], ?_, ?_⟩
      · rw [hmore, hadded, List.append_assoc]
      · have htarget := hname.liesUnder config.root
        exact List.forall_mem_append.mpr ⟨hunder, List.forall_mem_singleton.mpr htarget⟩

/-- Which files the walk over a top-level file tries to read. -/
theorem walkFile_attempts (files : Files) (config : ShaderConfig) (top : Path) (budget : Int) :
    (walkFile files config top budget).attempts = [] ∨
      ∃ rest, (walkFile files config top budget).attempts = top :: rest ∧
        ∀ path ∈ rest, Path.LiesUnder config.root path := by
  obtain ⟨added, hadded, hunder⟩ :=
    attempts_of_advances (reaches_walkFile files config top budget)
  cases hbudget : budget.toNat with
  | zero =>
    refine .inl ?_
    unfold walkFile
    rw [hbudget]
    rfl
  | succ left =>
    have hfirst : (Standing.initial files config top budget).attempts = [top] := by
      unfold Standing.initial
      rw [hbudget]
      exact Standing.attempts_enter _ _ _ _
    rw [hfirst] at hadded
    exact .inr ⟨added, hadded, hunder⟩

/-- What is expanded depends only on what is found at the paths that are tried. -/
theorem expandBounded_congr {budget : Int}
    (h : ∀ path ∈ (walkFile files config top budget).attempts, files' path = files path) :
    expandBounded files' config top budget = expandBounded files config top budget := by
  have halike : ReadAlike files files' config config
      (walkFile files config top budget).attempts := by
    intro path hpath
    unfold loadSource
    rw [h path hpath]
  unfold expandBounded
  rw [walkFile_congr rfl budget halike]

/-- A malformed directive is passed over. -/
theorem advances_malformed_iff {path : Path} {line budget : Nat} {text : List Char}
    {rest : List (List Char)} {outer : List OpenFile} {events : List IncludeEvent}
    (hmark : includeMark <+: text) (hmalformed : IsMalformed text) (next : Standing) :
    Advances files config top ⟨⟨path, line, text :: rest⟩ :: outer, budget, events⟩ next ↔
      next = ⟨⟨path, line + 1, rest⟩ :: outer, budget, events ++ [.malformed path line]⟩ := by
  refine ⟨fun h => h.unique (.malformed hmark hmalformed), ?_⟩
  rintro rfl
  exact .malformed hmark hmalformed

/-- An expansion tries to read the top-level file and otherwise only paths under the shader root,
each of them the root joined with a confined name, and it does not depend on any other file. As it
goes on line by line, it reads a file or takes from the budget only at a directive with such a name.
A directive with another name is passed over. -/
theorem expansion_confined (files : Files) (config : ShaderConfig) (top : Path) (budget : Int) :
    ((walkFile files config top budget).attempts = [] ∨
      ∃ rest, (walkFile files config top budget).attempts = top :: rest ∧
        ∀ path ∈ rest, Path.LiesUnder config.root path) ∧
    (∀ files' : Files,
      (∀ path, path = top ∨ Path.LiesUnder config.root path → files' path = files path) →
        expandBounded files' config top budget = expandBounded files config top budget) ∧
    Reaches files config top budget
      ⟨[], (walkFile files config top budget).budget, (walkFile files config top budget).events⟩ ∧
    (∀ standing next, Reaches files config top budget standing →
      Advances files config top standing next →
        next.attempts = standing.attempts ∧ next.budget = standing.budget ∨
        ∃ text, standing.Meets text ∧ includeMark <+: text ∧ (directiveName text).IsConfined ∧
          next.attempts = standing.attempts ++ [config.path (directiveName text)] ∧
          standing.budget = next.budget + 1) ∧
    ∀ path line text rest outer left events,
      Reaches files config top budget ⟨⟨path, line, text :: rest⟩ :: outer, left, events⟩ →
      includeMark <+: text → ¬ (directiveName text).IsConfined →
      ∀ next, Advances files config top ⟨⟨path, line, text :: rest⟩ :: outer, left, events⟩ next ↔
        next = ⟨⟨path, line + 1, rest⟩ :: outer, left, events ++ [.malformed path line]⟩ := by
  have hattempts := walkFile_attempts files config top budget
  refine ⟨hattempts, fun files' hsame => expandBounded_congr fun path hpath => hsame path ?_,
    reaches_walkFile files config top budget, fun standing next _ hstep => hstep.reads, ?_⟩
  · rcases hattempts with hnone | ⟨rest, hrest, hunder⟩
    · simp [hnone] at hpath
    · rw [hrest] at hpath
      exact (List.mem_cons.mp hpath).imp_right (hunder path)
  · intro path line text rest outer left events _ hmark hname next
    have hmalformed : IsMalformed text :=
      by_contra fun hwell => hname (isConfined_directiveName hwell)
    exact advances_malformed_iff hmark hmalformed next

/-- A file system in which every path can be read, and every file asks for what lies outside. -/
def prowlingFiles : Files := fun _ =>
  .file ("#include \"../secret\"\n#include \"/secret\"\n" ++
    "#include \"a//../b\"\n#include \"a//./b\"").toUTF8

/-- Only the last of these names is followed, once. -/
example : (walkFile prowlingFiles {} ⟨"top"⟩ 8).attempts = [⟨"top"⟩, ⟨"shaders/a//./b"⟩] := by
  decide +kernel

end Shaderbox
