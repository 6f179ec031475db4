import Shaderbox.Proofs.WalkAttempts

/-!
# What a walk depends on

A walk looks at nothing but the files that it tries to read and the directory that names are
resolved against. Where each of those files is read alike, under another file system or another cap
on sizes, the walk is the same: it cannot come to any other file.
-/

namespace Shaderbox

/-- A walk is determined by what it is together with a text in front of it. -/
theorem Walk.eq_of_prepend_nil {walk other : Walk} {text : List Char}
    (h : walk.prepend text [] = other.prepend text []) : walk = other := by
  obtain ⟨_, _, _⟩ := walk
  obtain ⟨_, _, _⟩ := other
  simpa [Walk.prepend] using h

variable {files files' : Files} {config config' : ShaderConfig}
  (hroot : config'.root = config.root) {top : Path}

/-- Whether two file systems with their caps on sizes read all those files alike. -/
def ReadAlike (files files' : Files) (config config' : ShaderConfig) (paths : List Path) : Prop :=
  ∀ path ∈ paths,
    loadSource files' config'.maxSourceSize path = loadSource files config.maxSourceSize path

include hroot

theorem path_congr (name : Path) : config'.path name = config.path name := by
  rw [ShaderConfig.path, ShaderConfig.path, hroot]

section Lines

variable {splice splice' : Nat → Path → Walk}
  (hsplice : ∀ budget target,
    ReadAlike files files' config config' (splice budget target).attempts →
      splice' budget target = splice budget target)

include hsplice

/-- If walks over included files depend only on what they try to read, so does the walk over the
lines of the file that includes them. -/
theorem expandText_congr (path : Path) {lines : List (List Char)}
    (hfeed : ∀ text ∈ lines, '\n' ∉ text) (line budget : Nat)
    (h : ReadAlike files files' config config'
      (expandText config top path splice line budget (below lines)).attempts) :
    expandText config' top path splice' line budget (below lines) =
      expandText config top path splice line budget (below lines) := by
  induction lines generalizing line budget with
  | nil => rw [below_nil, expandText_nil, expandText_nil]
  | cons text rest ih =>
    have htext : '\n' ∉ text := hfeed text List.mem_cons_self
    replace ih := ih fun text h => hfeed text (List.mem_cons_of_mem _ h)
    rw [expandText_below_cons] at h ⊢
    rw [expandText_below_cons]
    congr 1
    by_cases hmark : includeMark <+: text
    · by_cases hwell : IsMalformed text
      · rw [expandText_malformed config top path splice htext hmark hwell] at h ⊢
        rw [expandText_malformed config' top path splice' htext hmark hwell, ih _ _ h]
      · have hnames : NamesItself config' top path text ↔ NamesItself config top path text := by
          rw [NamesItself, NamesItself, path_congr hroot]
        by_cases hother : NamesItself config top path text
        · rw [expandText_selfInclude config top path splice htext hmark hwell hother,
            expandText_selfInclude config' top path splice' htext hmark hwell (hnames.mpr hother)]
        · have hother' := mt hnames.mp hother
          cases budget with
          | zero =>
            rw [expandText_refused config top path splice htext hmark hwell hother] at h ⊢
            rw [expandText_refused config' top path splice' htext hmark hwell hother', ih _ _ h]
          | succ budget =>
            rw [expandText_spliced config top path splice htext hmark hwell hother] at h ⊢
            rw [Walk.attempts_prepend_nil, Walk.attempts_prepend, ReadAlike,
              List.forall_mem_append] at h
            rw [expandText_spliced config' top path splice' htext hmark hwell hother',
              path_congr hroot, hsplice _ _ h.1, ih _ _ h.2]
    · rw [expandText_plain config top path splice htext hmark] at h ⊢
      rw [expandText_plain config' top path splice' htext hmark, ih _ _ h]

/-- If walks over included files depend only on what they try to read, so does the walk over the
file that includes them. -/
theorem readWith_congr (budget : Nat) (path : Path)
    (h : ReadAlike files files' config config'
      (readWith files config top splice budget path).attempts) :
    readWith files' config' top splice' budget path =
      readWith files config top splice budget path := by
  obtain ⟨rest, hattempts⟩ := readWith_attempts files config top splice budget path
  have hload : loadSource files' config'.maxSourceSize path =
      loadSource files config.maxSourceSize path := h path (by simp [hattempts])
  unfold readWith at h ⊢
  rw [hload]
  split
  · rfl
  · rename_i source hsource
    rw [hsource, Walk.attempts_prepend_opened, ReadAlike, List.forall_mem_cons] at h
    have hfeed : ∀ text ∈ linesOf source.text.toList, '\n' ∉ text := fun _ h =>
      feed_not_mem_of_mem_linesOf h
    have hlines : expandText config' top path splice' 0 budget (below (linesOf _)) =
        expandText config top path splice 0 budget (below (linesOf _)) :=
      expandText_congr hroot hsplice path hfeed 0 budget (by rw [expandText_linesOf]; exact h.2)
    rw [expandText_linesOf, expandText_linesOf] at hlines
    rw [Walk.eq_of_prepend_nil hlines]

end Lines

/-- The walk over a tree of includes depends only on what it tries to read. -/
theorem expandFile_congr (depth budget : Nat) (path : Path)
    (h : ReadAlike files files' config config'
      (expandFile files config top depth budget path).attempts) :
    expandFile files' config' top depth budget path =
      expandFile files config top depth budget path := by
  induction depth generalizing budget path with
  | zero => exact readWith_congr hroot (fun _ _ _ => rfl) budget path h
  | succ depth ih => exact readWith_congr hroot (fun b target => ih b target) budget path h

/-- The walk over a top-level file depends only on what it tries to read. -/
theorem walkFile_congr (budget : Int)
    (h : ReadAlike files files' config config' (walkFile files config top budget).attempts) :
    walkFile files' config' top budget = walkFile files config top budget := by
  unfold walkFile at h ⊢
  split
  · rfl
  · rename_i budget' hbudget
    rw [hbudget] at h
    exact expandFile_congr hroot budget' budget' top h

end Shaderbox
