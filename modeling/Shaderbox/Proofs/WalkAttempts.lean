import Shaderbox.Proofs.ReportFlags
import Shaderbox.Proofs.WalkRules

/-!
# The files that a walk tries to read

A walk takes one unit of its budget for each file that it tries to read, whether or not the file can
be read. So what it tried and what is left of the budget add up to what it began with, and a walk
that begins with nothing tries nothing.
-/

namespace Shaderbox

/-- The path of a file that was to be read. -/
def IncludeEvent.attempt? : IncludeEvent → Option Path
  | .opened path _ => some path
  | .failed path _ => some path
  | _ => none

namespace Walk

/-- The files that a walk tried to read, in order. -/
def attempts (walk : Walk) : List Path :=
  walk.events.filterMap IncludeEvent.attempt?

/-- Whether what a walk tried to read and what it left add up to a budget. -/
def Spends (budget : Nat) (walk : Walk) : Prop :=
  walk.attempts.length + walk.budget = budget

variable (walk : Walk) (text : List Char)

@[simp] theorem text_prepend (events : List IncludeEvent) :
    (walk.prepend text events).text = text ++ walk.text := rfl

@[simp] theorem budget_prepend (events : List IncludeEvent) :
    (walk.prepend text events).budget = walk.budget := rfl

@[simp] theorem events_prepend (events : List IncludeEvent) :
    (walk.prepend text events).events = events ++ walk.events := rfl

/-- What a walk in front tried to read comes first. -/
theorem attempts_prepend (first : Walk) :
    (walk.prepend text first.events).attempts = first.attempts ++ walk.attempts :=
  List.filterMap_append

/-- A refusal in front counts as well. -/
theorem refuses_prepend (first : Walk) :
    (walk.prepend text first.events).refuses = (first.refuses || walk.refuses) :=
  List.any_append

@[simp] theorem attempts_prepend_nil : (walk.prepend text []).attempts = walk.attempts := rfl

@[simp] theorem attempts_prepend_refused :
    (walk.prepend text [.refused]).attempts = walk.attempts := rfl

@[simp] theorem attempts_prepend_opened (path : Path) (source : LoadedSource) :
    (walk.prepend text [.opened path source]).attempts = path :: walk.attempts := rfl

variable {walk} {budget : Nat}

theorem Spends.budget_le (h : walk.Spends budget) : walk.budget ≤ budget :=
  h ▸ Nat.le_add_left _ _

/-- A walk tries no more files than its budget allows. -/
theorem Spends.length_attempts_le (h : walk.Spends budget) : walk.attempts.length ≤ budget :=
  h ▸ Nat.le_add_right _ _

/-- A walk that used its budget up tried as many files as that allowed. -/
theorem Spends.length_attempts_eq (h : walk.Spends budget) (hempty : walk.budget = 0) :
    walk.attempts.length = budget := by
  rw [← h, hempty, Nat.add_zero]

/-- A walk that begins with nothing tries nothing and leaves nothing. -/
theorem Spends.of_zero (h : walk.Spends 0) : walk.attempts = [] ∧ walk.budget = 0 := by
  obtain ⟨hattempts, hbudget⟩ := Nat.add_eq_zero_iff.mp h
  exact ⟨List.length_eq_zero_iff.mp hattempts, hbudget⟩

/-- The walk over an included file takes one unit more than is then left for it. -/
theorem Spends.prepend {file : Walk} (hfile : file.Spends (budget + 1))
    (h : walk.Spends file.budget) : (walk.prepend text file.events).Spends (budget + 1) := by
  unfold Spends at hfile h ⊢
  rw [attempts_prepend, List.length_append, budget_prepend, ← hfile, ← h, Nat.add_assoc]

/-- Opening a file takes one unit more than the walk over its text. -/
theorem Spends.opened (h : walk.Spends budget) (path : Path) (source : LoadedSource) :
    (walk.prepend text [.opened path source]).Spends (budget + 1) := by
  unfold Spends at h ⊢
  rw [attempts_prepend_opened, List.length_cons, budget_prepend, ← h]
  omega

end Walk

section Spends

variable {files : Files} {config : ShaderConfig} {top : Path} {splice : Nat → Path → Walk}
  {most : Nat}

/-- If the walks over included files account for their budget, so does the walk over the lines of
the file that includes them. -/
theorem expandText_spends
    (hsplice : ∀ budget target, budget < most → (splice budget target).Spends (budget + 1))
    (path : Path) (line budget : Nat) (hmost : budget ≤ most) (source : List Char) :
    (expandText config top path splice line budget source).Spends budget := by
  fun_induction expandText config top path splice line budget source with
  | case1 => exact Nat.zero_add _
  | case2 _ _ _ _ _ _ _ _ _ _ _ _ _ ih => exact ih hmost
  | case3 => exact Nat.zero_add _
  | case4 _ _ _ _ _ _ _ _ _ _ _ _ _ _ _ ih => exact ih hmost
  | case5 _ _ _ _ _ _ _ _ _ _ _ _ _ _ budget file ih =>
    have hfile : file.Spends (budget + 1) := hsplice _ _ hmost
    have hleft : file.budget ≤ most := hfile.budget_le.trans hmost
    exact hfile.prepend _ (ih hleft)

theorem readWith_spends
    (hsplice : ∀ budget target, budget < most → (splice budget target).Spends (budget + 1))
    (budget : Nat) (path : Path) (hmost : budget ≤ most) :
    (readWith files config top splice budget path).Spends (budget + 1) := by
  unfold readWith
  split
  · exact Nat.add_comm 1 budget
  · exact (expandText_spends hsplice path 1 budget hmost _).opened _ _ _

/-- The walk over a tree of includes takes the unit for its file and those for the files below. -/
theorem expandFile_spends (depth budget : Nat) (path : Path) (hdepth : budget ≤ depth) :
    (expandFile files config top depth budget path).Spends (budget + 1) := by
  induction depth generalizing budget path with
  | zero => exact readWith_spends (by simp) budget path hdepth
  | succ depth ih =>
    refine readWith_spends ?_ budget path hdepth
    intro budget target hbudget
    exact ih budget target (Nat.le_of_lt_succ hbudget)

/-- What the walk over a top-level file tried to read and what it left add up to the budget. -/
theorem walkFile_spends (files : Files) (config : ShaderConfig) (top : Path) (budget : Int) :
    (walkFile files config top budget).Spends budget.toNat := by
  unfold walkFile
  split
  · rename_i hbudget
    exact hbudget.symm
  · rename_i budget' hbudget
    rw [hbudget]
    exact expandFile_spends budget' budget' top (le_refl _)

/-- The first file that a walk tries to read is the one it is given. -/
theorem readWith_attempts (files : Files) (config : ShaderConfig) (top : Path)
    (splice : Nat → Path → Walk) (budget : Nat) (path : Path) :
    ∃ rest, (readWith files config top splice budget path).attempts = path :: rest := by
  unfold readWith
  split
  · exact ⟨[], rfl⟩
  · exact ⟨_, rfl⟩

theorem expandFile_attempts (files : Files) (config : ShaderConfig) (top : Path)
    (depth budget : Nat) (path : Path) :
    ∃ rest, (expandFile files config top depth budget path).attempts = path :: rest := by
  cases depth with
  | zero => exact readWith_attempts files config top _ budget path
  | succ depth => exact readWith_attempts files config top _ budget path

theorem expandFile_attempts_ne_nil (depth budget : Nat) (path : Path) :
    (expandFile files config top depth budget path).attempts ≠ [] := by
  obtain ⟨rest, hattempts⟩ := expandFile_attempts files config top depth budget path
  exact hattempts ▸ List.cons_ne_nil path rest

end Spends

end Shaderbox
