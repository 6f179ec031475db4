import Shaderbox.Proofs.WalkAttempts

/-!
# Walks with different budgets

Two walks over the same files, begun with different budgets, go the same way until the smaller
budget is used up. If no directive asks for more than that, the walks differ in nothing but what is
left of the budget. Otherwise the one with less leaves a directive in place where the other tries
one more file, and from there on it tries no file at all. So what a walk tries to read is the
beginning of what any walk with more budget tries.
-/

namespace Shaderbox

/-- How a walk goes beside one that began with more budget. -/
inductive InLockstep (less more : Walk) : Prop where
  /-- No directive asked for more than the smaller budget. -/
  | enough (text : less.text = more.text) (events : less.events = more.events)
      (refused : less.refuses = false) (budget : less.budget < more.budget)
  /-- The smaller budget was used up, and the other walk tried another file. -/
  | exhausted (refused : less.refuses = true) (empty : less.budget = 0)
      (further : ∃ path rest, more.attempts = less.attempts ++ path :: rest)

namespace InLockstep

variable {less more : Walk}

/-- Two walks stay in lockstep behind what they share. -/
theorem prepend (h : InLockstep less more) (text : List Char) (first : Walk)
    (hfirst : first.refuses = false) :
    InLockstep (less.prepend text first.events) (more.prepend text first.events) := by
  cases h with
  | enough htext hevents hrefused hbudget =>
    refine .enough ?_ ?_ ?_ hbudget
    · rw [Walk.text_prepend, Walk.text_prepend, htext]
    · rw [Walk.events_prepend, Walk.events_prepend, hevents]
    · rw [Walk.refuses_prepend, hfirst, hrefused, Bool.or_self]
  | exhausted hrefused hempty hfurther =>
    obtain ⟨path, rest, hmore⟩ := hfurther
    refine .exhausted ?_ hempty ⟨path, rest, ?_⟩
    · rw [Walk.refuses_prepend, hrefused, Bool.or_true]
    · rw [Walk.attempts_prepend, Walk.attempts_prepend, hmore, List.append_assoc]

/-- Two walks stay in lockstep behind an event that is neither a refusal nor an attempt. -/
theorem prepend_kept (h : InLockstep less more) (text : List Char) (event : IncludeEvent)
    (hevent : event.isRefusal = false) :
    InLockstep (less.prepend text [event]) (more.prepend text [event]) :=
  h.prepend text ⟨[], 0, [event]⟩ (by simp [Walk.refuses, hevent])

theorem prepend_nil (h : InLockstep less more) (text : List Char) :
    InLockstep (less.prepend text []) (more.prepend text []) :=
  h.prepend text ⟨[], 0, []⟩ rfl

/-- What two walks share in front of them does not keep them in lockstep. -/
theorem of_prepend_nil {text : List Char}
    (h : InLockstep (less.prepend text []) (more.prepend text [])) : InLockstep less more := by
  cases h with
  | enough htext hevents hrefused hbudget =>
    exact .enough (List.append_cancel_left htext) hevents hrefused hbudget
  | exhausted hrefused hempty hfurther => exact .exhausted hrefused hempty hfurther

/-- Where the smaller budget is used up, it refuses a file that the other walk tries. -/
theorem refused {file : Walk} (hless : less.Spends 0) (hfile : file.attempts ≠ [])
    (text spliced : List Char) :
    InLockstep (less.prepend text [.refused]) (more.prepend spliced file.events) := by
  obtain ⟨hattempts, hbudget⟩ := hless.of_zero
  obtain ⟨path, rest, hpath⟩ := List.exists_cons_of_ne_nil hfile
  refine .exhausted rfl hbudget ⟨path, rest ++ more.attempts, ?_⟩
  rw [Walk.attempts_prepend, Walk.attempts_prepend_refused, hattempts, hpath]
  rfl

/-- Walks over an included file in lockstep, and then over what follows the directive. -/
theorem spliced {file file' : Walk} (hfile : InLockstep file file') (before after : List Char)
    (hless : less.Spends file.budget)
    (hrest : file.budget < file'.budget → InLockstep less more) :
    InLockstep (less.prepend (before ++ file.text ++ after) file.events)
      (more.prepend (before ++ file'.text ++ after) file'.events) := by
  cases hfile with
  | enough htext hevents hrefused hbudget =>
    rw [← htext, ← hevents]
    exact (hrest hbudget).prepend _ file hrefused
  | exhausted hrefused hempty hfurther =>
    obtain ⟨path, rest, hmore⟩ := hfurther
    obtain ⟨hattempts, hbudget⟩ := (hempty ▸ hless).of_zero
    refine .exhausted ?_ hbudget ⟨path, rest ++ more.attempts, ?_⟩
    · rw [Walk.refuses_prepend, hrefused, Bool.true_or]
    · rw [Walk.attempts_prepend, Walk.attempts_prepend, hattempts, hmore, List.append_nil,
        List.append_assoc, List.cons_append]

variable {budget : Nat}

/-- What a walk with less budget tries to read is the beginning of what the other one tries. -/
theorem attempts_eq_take (h : InLockstep less more) (hless : less.Spends budget) :
    less.attempts = more.attempts.take budget := by
  cases h with
  | enough _ hevents =>
    have hsame : less.attempts = more.attempts :=
      congrArg (List.filterMap IncludeEvent.attempt?) hevents
    rw [← hsame, List.take_of_length_le hless.length_attempts_le]
  | exhausted _ hempty hfurther =>
    obtain ⟨path, rest, hmore⟩ := hfurther
    rw [hmore, ← hless.length_attempts_eq hempty, List.take_left]

/-- A walk meets an empty budget exactly when one with more budget tries more files. -/
theorem refuses_iff (h : InLockstep less more) (hless : less.Spends budget) :
    less.refuses = true ↔ budget < more.attempts.length := by
  cases h with
  | enough _ hevents hrefused =>
    have hsame : less.attempts = more.attempts :=
      congrArg (List.filterMap IncludeEvent.attempt?) hevents
    rw [hrefused, ← hsame]
    exact iff_of_false Bool.false_ne_true (Nat.not_lt.mpr hless.length_attempts_le)
  | exhausted hrefused hempty hfurther =>
    obtain ⟨path, rest, hmore⟩ := hfurther
    refine iff_of_true hrefused ?_
    rw [hmore, List.length_append, hless.length_attempts_eq hempty, List.length_cons]
    omega

end InLockstep

section Lockstep

variable {files : Files} {config : ShaderConfig} {top : Path} {splice splice' : Nat → Path → Walk}
  {most most' : Nat}
  (hspends : ∀ budget target, budget < most → (splice budget target).Spends (budget + 1))
  (hspends' : ∀ budget target, budget < most' → (splice' budget target).Spends (budget + 1))
  (hattempts' : ∀ budget target, (splice' budget target).attempts ≠ [])
  (hsplice : ∀ budget budget' target, budget < most → budget' < most' → budget < budget' →
    InLockstep (splice budget target) (splice' budget' target))

include hspends hspends' hattempts' hsplice

/-- If included files are walked in lockstep, so are the lines of the file that includes them. -/
theorem expandText_lockstep (path : Path) {lines : List (List Char)}
    (hfeed : ∀ text ∈ lines, '\n' ∉ text) (line budget budget' : Nat) (hmost : budget ≤ most)
    (hmost' : budget' ≤ most') (hmore : budget < budget') :
    InLockstep (expandText config top path splice line budget (below lines))
      (expandText config top path splice' line budget' (below lines)) := by
  induction lines generalizing line budget budget' with
  | nil =>
    rw [below_nil, expandText_nil, expandText_nil]
    exact .enough rfl rfl rfl hmore
  | cons text rest ih =>
    have htext : '\n' ∉ text := hfeed text List.mem_cons_self
    replace ih := ih fun text h => hfeed text (List.mem_cons_of_mem _ h)
    rw [expandText_below_cons, expandText_below_cons]
    apply InLockstep.prepend_nil
    by_cases hmark : includeMark <+: text
    · by_cases hwell : IsMalformed text
      · rw [expandText_malformed config top path splice htext hmark hwell,
          expandText_malformed config top path splice' htext hmark hwell]
        exact (ih _ _ _ hmost hmost' hmore).prepend_kept _ _ rfl
      · by_cases hother : NamesItself config top path text
        · rw [expandText_selfInclude config top path splice htext hmark hwell hother,
            expandText_selfInclude config top path splice' htext hmark hwell hother]
          exact .enough rfl rfl rfl hmore
        · obtain ⟨more, rfl⟩ : ∃ more, budget' = more + 1 := Nat.exists_eq_add_one.mpr (by omega)
          rw [expandText_spliced config top path splice' htext hmark hwell hother]
          cases budget with
          | zero =>
            rw [expandText_refused config top path splice htext hmark hwell hother]
            exact .refused (expandText_spends hspends path _ 0 hmost _) (hattempts' _ _) _ _
          | succ budget =>
            rw [expandText_spliced config top path splice htext hmark hwell hother]
            have hleft := (hspends budget (config.path (directiveName text)) hmost).budget_le
            have hleft' := (hspends' more (config.path (directiveName text)) hmost').budget_le
            refine (hsplice budget more _ hmost hmost' (by omega)).spliced [] _
              (expandText_spends hspends path _ _ (hleft.trans hmost) _) ?_
            exact ih _ _ _ (hleft.trans hmost) (hleft'.trans hmost')
    · rw [expandText_plain config top path splice htext hmark,
        expandText_plain config top path splice' htext hmark]
      exact (ih _ _ _ hmost hmost' hmore).prepend_nil _

theorem readWith_lockstep (budget budget' : Nat) (path : Path) (hmost : budget ≤ most)
    (hmost' : budget' ≤ most') (hmore : budget < budget') :
    InLockstep (readWith files config top splice budget path)
      (readWith files config top splice' budget' path) := by
  unfold readWith
  split
  · exact .enough rfl rfl rfl hmore
  · rename_i source hload
    have hfeed : ∀ text ∈ linesOf source.text.toList, '\n' ∉ text := fun _ h =>
      feed_not_mem_of_mem_linesOf h
    have hlines : InLockstep
        (expandText config top path splice 0 budget (below (linesOf source.text.toList)))
        (expandText config top path splice' 0 budget' (below (linesOf source.text.toList))) :=
      expandText_lockstep hspends hspends' hattempts' hsplice path hfeed 0 _ _ hmost hmost' hmore
    rw [expandText_linesOf, expandText_linesOf] at hlines
    exact hlines.of_prepend_nil.prepend_kept [] (.opened path source) rfl

end Lockstep

variable {files : Files} {config : ShaderConfig} {top : Path}

/-- Walks over a tree of includes go in lockstep when both may nest as deep as their budgets ask. -/
theorem expandFile_lockstep (depth depth' budget budget' : Nat) (path : Path)
    (hdepth : budget ≤ depth) (hdepth' : budget' ≤ depth') (hmore : budget < budget') :
    InLockstep (expandFile files config top depth budget path)
      (expandFile files config top depth' budget' path) := by
  induction depth generalizing depth' budget budget' path with
  | zero =>
    cases depth' with
    | zero => omega
    | succ depth' =>
      -- Without any budget no included file is walked, so the bound on the depth does not matter.
      have hnone (b : Nat) (target : Path) : b < 0 → Walk.Spends (b + 1) ⟨[], b, []⟩ := by simp
      refine readWith_lockstep hnone ?_ ?_ (by simp) budget budget' path hdepth hdepth' hmore
      · exact fun b target hb => expandFile_spends depth' b target (Nat.le_of_lt_succ hb)
      · exact fun b target => expandFile_attempts_ne_nil depth' b target
  | succ depth ih =>
    cases depth' with
    | zero => omega
    | succ depth' =>
      refine readWith_lockstep ?_ ?_ ?_ ?_ budget budget' path hdepth hdepth' hmore
      · exact fun b target hb => expandFile_spends depth b target (Nat.le_of_lt_succ hb)
      · exact fun b target hb => expandFile_spends depth' b target (Nat.le_of_lt_succ hb)
      · exact fun b target => expandFile_attempts_ne_nil depth' b target
      · intro b b' target hb hb' hless
        exact ih depth' b b' target (Nat.le_of_lt_succ hb) (Nat.le_of_lt_succ hb') hless

/-- Walks over a top-level file are the same or go in lockstep. -/
theorem walkFile_lockstep (files : Files) (config : ShaderConfig) (top : Path)
    {budget budget' : Int} (hmore : budget ≤ budget') :
    walkFile files config top budget = walkFile files config top budget' ∨
      InLockstep (walkFile files config top budget) (walkFile files config top budget') := by
  unfold walkFile
  cases hless : budget.toNat with
  | zero =>
    cases hother : budget'.toNat with
    | zero => exact .inl rfl
    | succ most =>
      obtain ⟨rest, hattempts⟩ := expandFile_attempts files config top most most top
      exact .inr (.exhausted rfl rfl ⟨top, rest, hattempts⟩)
  | succ most =>
    obtain ⟨most', hother⟩ : ∃ most', budget'.toNat = most' + 1 :=
      Nat.exists_eq_add_one.mpr (by omega)
    rw [hother]
    by_cases hsame : most = most'
    · subst hsame
      exact .inl rfl
    · exact .inr (expandFile_lockstep most most' most most' top (le_refl _) (le_refl _) (by omega))

/-- The files that the expansion of a top-level file with a budget tries to read, in order. -/
def attemptsWithin (files : Files) (config : ShaderConfig) (top : Path) (budget : Int) :
    List Path :=
  (walkFile files config top budget).attempts

/-- More budget only adds to what an expansion tries to read: with less of it, what is tried is the
beginning of that, as far as the budget goes. An expansion reports that its budget ran out exactly
when one more unit would be used up as well. One that does not report it comes to the same with any
greater budget. -/
theorem expandBounded_budget_monotone (files : Files) (config : ShaderConfig) (top : Path)
    (budget budget' : Int) (hsize : config.maxSourceSize < sizeMax) (hmore : budget ≤ budget') :
    ∃ less more, expandBounded files config top budget = .ok less ∧
      expandBounded files config top budget' = .ok more ∧
      attemptsWithin files config top budget =
        (attemptsWithin files config top budget').take budget.toNat ∧
      (0 ≤ budget → (less.report.budgetExhausted = true ↔
        ((attemptsWithin files config top (budget + 1)).length : Int) = budget + 1)) ∧
      (less.report.budgetExhausted = false → less = more) := by
  have hspends := walkFile_spends files config top budget
  refine ⟨_, _, expandBounded_eq hsize budget, expandBounded_eq hsize budget', ?_, ?_, ?_⟩
  · rcases walkFile_lockstep files config top hmore with hsame | hlockstep
    · have hattempts := congrArg Walk.attempts hsame
      have hlength := hspends.length_attempts_le
      rw [hattempts] at hlength
      exact hattempts.trans (List.take_of_length_le hlength).symm
    · exact hlockstep.attempts_eq_take hspends
  · intro hbudget
    have hnext := walkFile_spends files config top (budget + 1)
    have hlength : (attemptsWithin files config top (budget + 1)).length ≤ (budget + 1).toNat :=
      hnext.length_attempts_le
    have hgrown : budget ≤ budget + 1 := by omega
    rw [Expansion.budgetExhausted_capped, Expansion.budgetExhausted_ofWalk]
    rcases walkFile_lockstep files config top hgrown with hsame | hlockstep
    · rw [hsame] at hspends
      have := hspends.symm.trans hnext
      omega
    · rw [hlockstep.refuses_iff hspends]
      unfold attemptsWithin at hlength ⊢
      omega
  · intro hexhausted
    rw [Expansion.budgetExhausted_capped, Expansion.budgetExhausted_ofWalk] at hexhausted
    rcases walkFile_lockstep files config top hmore with hsame | hlockstep
    · rw [hsame]
    · cases hlockstep with
      | enough htext hevents =>
        unfold Expansion.ofWalk
        rw [htext, hevents]
      | exhausted hrefused =>
        rw [hrefused] at hexhausted
        contradiction

/-- A file that includes one that includes a third. -/
def fileChain : Files := fun path =>
  if path.text = "top" then .file "#include \"a\"\nend".toUTF8
  else if path.text = "shaders/a" then .file "#include \"b\"".toUTF8
  else if path.text = "shaders/b" then .file "leaf".toUTF8
  else .absent

/-- A budget of two is used up before the nested file, which one more unit leads to. -/
theorem expandBounded_budget_monotone_fileChain :
    ({} : ShaderConfig).maxSourceSize < sizeMax ∧ (2 : Int) ≤ 3 ∧
      attemptsWithin fileChain {} ⟨"top"⟩ 3 = [⟨"top"⟩, ⟨"shaders/a"⟩, ⟨"shaders/b"⟩] ∧
      attemptsWithin fileChain {} ⟨"top"⟩ 2 = [⟨"top"⟩, ⟨"shaders/a"⟩] ∧
      ∃ less, expandBounded fileChain {} ⟨"top"⟩ 2 = .ok less ∧
        less.report.budgetExhausted = true := by
  have hmore : attemptsWithin fileChain {} ⟨"top"⟩ 3 =
      [⟨"top"⟩, ⟨"shaders/a"⟩, ⟨"shaders/b"⟩] := by
    decide +kernel
  obtain ⟨less, -, hless, -, htake, hexhausted, -⟩ :=
    expandBounded_budget_monotone fileChain {} ⟨"top"⟩ 2 3 (by decide) (by decide)
  refine ⟨by decide, by decide, hmore, ?_, less, hless, ?_⟩
  · rw [htake, hmore]
    rfl
  · rw [hexhausted (by decide)]
    exact congrArg (fun attempts : List Path => (attempts.length : Int)) hmore

end Shaderbox
