import Shaderbox.Proofs.WalkEvents
import Shaderbox.Proofs.WalkLines

/-!
# The walk obeys the rules

Every walk over a file is one that the rules for lines allow: it writes their lines of output, and
what it records adds up to their final state. The induction is on the lines of a file. Included
files are walked with less budget than is left, and a walk with some budget never nests deeper than
that, so the bound on the depth of the recursion is never met.

With that, expanding a file is expanding it line by line and cutting the result.
-/

namespace Shaderbox

namespace ExpansionState

/-- The state that a walk leaves behind. -/
def absorb (walk : Walk) (state : ExpansionState) : ExpansionState where
  budget := walk.budget
  exhausted := state.exhausted || walk.events.any IncludeEvent.isRefusal
  files := state.files ++ walk.events.filterMap IncludeEvent.file?
  findings := state.findings ++ walk.events.filterMap IncludeEvent.finding?

variable (walk : Walk) (text : List Char) (state : ExpansionState)

/-- What happened first is absorbed first. -/
theorem absorb_prepend (first : Walk) :
    state.absorb (walk.prepend text first.events) = (state.absorb first).absorb walk := by
  simp [absorb, Walk.prepend, Bool.or_assoc]

@[simp] theorem absorb_prepend_nil : state.absorb (walk.prepend text []) = state.absorb walk := by
  simp [absorb, Walk.prepend]

@[simp] theorem absorb_prepend_malformed (path : Path) (line : Nat) :
    state.absorb (walk.prepend text [.malformed path line]) =
      (state.record (.malformedInclude path line)).absorb walk := by
  simp [absorb, Walk.prepend, record, List.filterMap_cons, IncludeEvent.isRefusal,
    IncludeEvent.file?, IncludeEvent.finding?]

@[simp] theorem absorb_prepend_refused :
    state.absorb (walk.prepend text [.refused]) = state.exhaust.absorb walk := by
  simp [absorb, Walk.prepend, exhaust, List.filterMap_cons, IncludeEvent.isRefusal,
    IncludeEvent.file?, IncludeEvent.finding?]

@[simp] theorem absorb_prepend_opened (path : Path) (source : LoadedSource) :
    state.absorb (walk.prepend text [.opened path source]) = (state.note path).absorb walk := by
  simp [absorb, Walk.prepend, note, List.filterMap_cons, IncludeEvent.isRefusal, IncludeEvent.file?,
    IncludeEvent.finding?]

/-- What was left of the budget before a walk does not count behind it. -/
theorem absorb_spend : state.spend.absorb walk = state.absorb walk := rfl

variable {state} {budget : Nat} (hbudget : state.budget = budget)

include hbudget

theorem absorb_still : state.absorb ⟨text, budget, []⟩ = state := by
  simp [absorb, ← hbudget]

theorem absorb_selfIncluded (path name : Path) (line : Nat) :
    state.absorb ⟨text, budget, [.selfIncluded path line name]⟩ =
      state.record (.selfInclude path line) := by
  simp [absorb, record, IncludeEvent.isRefusal, IncludeEvent.file?,
    IncludeEvent.finding?, hbudget]

theorem absorb_failed (path : Path) (fault : LoadFault) :
    state.absorb ⟨text, budget, [.failed path fault]⟩ = state.record (.missingFile path) := by
  simp [absorb, record, IncludeEvent.isRefusal, IncludeEvent.file?,
    IncludeEvent.finding?, hbudget]

end ExpansionState

/-- Lines that are kept are written as they are. -/
theorem below_keptLines (depth : Nat) (path : Path) (behind : Bool) (line : Nat)
    (lines : List (List Char)) :
    below ((keptLines depth path behind line lines).map OutputLine.text) = below lines := by
  induction lines generalizing line with
  | nil => rfl
  | cons text rest ih =>
    rw [keptLines, List.map_cons, below_cons, below_cons, ih]
    rfl

/-- A line marker is written as the lines that the rules give for it. -/
theorem lineMarker_below (line : Nat) (rest : List (List Char)) :
    lineMarker line (below rest) =
      below ((.marker line :: directiveRemnant rest).map OutputLine.text) := by
  have hmarker : s!"\n#line {line}".toList = '\n' :: markerText line := by
    rw [markerText, String.toList_append, String.toList_append]
    rfl
  rw [lineMarker, hmarker]
  cases rest with
  | nil => simp [directiveRemnant, OutputLine.text]
  | cons text rest => simp [directiveRemnant, OutputLine.text]

section Follows

variable (files : Files) (config : ShaderConfig) (top : Path)

/-- The walk over the file at `path`, begun with a budget, is one that the rules allow. -/
def WalkFollows (path : Path) (budget : Nat) (walk : Walk) : Prop :=
  walk.budget ≤ budget ∧ ∀ depth state, state.budget = (budget : Int) →
    ∃ output, ExpandsFile files config top depth path state output (state.absorb walk) ∧
      '\n' :: walk.text = below (output.map OutputLine.text)

/-- The walk over lines of the file at `path`, the first of which has the given number, is one that
the rules allow. The text of such a walk begins with the end of the line above. -/
def LinesFollow (path : Path) (line : Nat) (lines : List (List Char)) (budget : Nat)
    (walk : Walk) : Prop :=
  walk.budget ≤ budget ∧ ∀ depth behind state, state.budget = (budget : Int) →
    ∃ output, ExpandsLines files config top depth path line behind lines state output
        (state.absorb walk) ∧
      walk.text = below (output.map OutputLine.text)

namespace LinesFollow

variable {files config top} {path : Path} {line budget : Nat} {text : List Char}
  {rest : List (List Char)} {walk : Walk}

theorem finished : LinesFollow files config top path line [] budget ⟨[], budget, []⟩ := by
  refine ⟨le_refl _, fun depth behind state hbudget => ⟨[], ?_, rfl⟩⟩
  rw [ExpansionState.absorb_still _ hbudget]
  exact .finished depth path line behind state

theorem plain (hplain : ¬ includeMark <+: text)
    (hrest : LinesFollow files config top path (line + 1) rest budget walk) :
    LinesFollow files config top path line (text :: rest) budget
      ((walk.prepend text []).prepend ['\n'] []) := by
  refine ⟨hrest.1, fun depth behind state hbudget => ?_⟩
  obtain ⟨output, hlines, hwritten⟩ := hrest.2 depth behind state hbudget
  rw [ExpansionState.absorb_prepend_nil, ExpansionState.absorb_prepend_nil]
  refine ⟨_, .plain hplain hlines, ?_⟩
  simp [Walk.prepend, OutputLine.text, hwritten]

theorem malformed (hmark : includeMark <+: text) (hmalformed : IsMalformed text)
    (hrest : LinesFollow files config top path (line + 1) rest budget walk) :
    LinesFollow files config top path line (text :: rest) budget
      ((walk.prepend text [.malformed path line]).prepend ['\n'] []) := by
  refine ⟨hrest.1, fun depth behind state hbudget => ?_⟩
  obtain ⟨output, hlines, hwritten⟩ :=
    hrest.2 depth behind (state.record (.malformedInclude path line)) hbudget
  rw [ExpansionState.absorb_prepend_nil, ExpansionState.absorb_prepend_malformed]
  refine ⟨_, .malformed hmark hmalformed hlines, ?_⟩
  simp [Walk.prepend, OutputLine.text, hwritten]

variable (hmark : includeMark <+: text) (hwell : ¬ IsMalformed text)

include hmark hwell

theorem selfInclude (hitself : NamesItself config top path text) :
    LinesFollow files config top path line (text :: rest) budget
      (Walk.prepend ['\n'] []
        ⟨text ++ below rest, budget, [.selfIncluded path line (directiveName text)]⟩) := by
  refine ⟨le_refl _, fun depth behind state hbudget => ?_⟩
  rw [ExpansionState.absorb_prepend_nil, ExpansionState.absorb_selfIncluded _ hbudget]
  refine ⟨_, .selfInclude hmark hwell hitself, ?_⟩
  rw [below_keptLines, below_cons]
  rfl

variable (hother : ¬ NamesItself config top path text)

include hother

theorem refused (hrest : LinesFollow files config top path (line + 1) rest 0 walk) :
    LinesFollow files config top path line (text :: rest) 0
      ((walk.prepend text [.refused]).prepend ['\n'] []) := by
  refine ⟨hrest.1, fun depth behind state hbudget => ?_⟩
  obtain ⟨output, hlines, hwritten⟩ := hrest.2 depth behind state.exhaust hbudget
  rw [ExpansionState.absorb_prepend_nil, ExpansionState.absorb_prepend_refused]
  have hempty : state.budget ≤ 0 := by omega
  refine ⟨_, .refused hmark hwell hother hempty hlines, ?_⟩
  simp [Walk.prepend, OutputLine.text, hwritten]

theorem spliced {file : Walk}
    (hfile : WalkFollows files config top (config.path (directiveName text)) budget file)
    (hrest : LinesFollow files config top path (line + 1) rest file.budget walk) :
    LinesFollow files config top path line (text :: rest) (budget + 1)
      ((walk.prepend (file.text ++ lineMarker line (below rest)) file.events).prepend
        ['\n'] []) := by
  refine ⟨hrest.1.trans (hfile.1.trans (Nat.le_succ budget)), fun depth behind state hbudget => ?_⟩
  have haffordable : 0 < state.budget := by omega
  have hspent : state.spend.budget = (budget : Int) := by
    change state.budget - 1 = budget
    omega
  obtain ⟨body, hbody, hbodyWritten⟩ := hfile.2 (depth + 1) state.spend hspent
  obtain ⟨output, hlines, hwritten⟩ := hrest.2 depth true (state.absorb file) rfl
  rw [ExpansionState.absorb_spend] at hbody
  rw [ExpansionState.absorb_prepend_nil, ExpansionState.absorb_prepend]
  refine ⟨body ++ .marker line :: directiveRemnant rest ++ output, ?_, ?_⟩
  · -- What the walk over the included file left behind decides which of the two rules applies.
    generalize state.absorb file = between at hbody hlines ⊢
    cases hbody with
    | missing failed => exact .missing hmark hwell hother haffordable failed hlines
    | loaded loaded inner =>
      exact .spliced hmark hwell hother haffordable loaded inner hlines
  · calc
      ((walk.prepend (file.text ++ lineMarker line (below rest)) file.events).prepend
          ['\n'] []).text = ('\n' :: file.text) ++ lineMarker line (below rest) ++ walk.text := by
        simp [Walk.prepend]
      _ = below ((body ++ .marker line :: directiveRemnant rest ++ output).map
          OutputLine.text) := by
        rw [hbodyWritten, lineMarker_below, hwritten, List.map_append, List.map_append,
          below_append, below_append]

end LinesFollow

variable {files config top} {splice : Nat → Path → Walk} {most : Nat}

/-- If included files are walked by the rules, so are the lines of the file that includes them. -/
theorem expandText_follows
    (hsplice : ∀ budget target, budget < most →
      WalkFollows files config top target budget (splice budget target))
    (path : Path) {lines : List (List Char)} (hfeed : ∀ text ∈ lines, '\n' ∉ text)
    (line budget : Nat) (hmost : budget ≤ most) :
    LinesFollow files config top path (line + 1) lines budget
      (expandText config top path splice line budget (below lines)) := by
  induction lines generalizing line budget with
  | nil =>
    rw [below_nil, expandText_nil]
    exact .finished
  | cons text rest ih =>
    have htext : '\n' ∉ text := hfeed text List.mem_cons_self
    replace ih := ih fun text h => hfeed text (List.mem_cons_of_mem _ h)
    rw [expandText_below_cons]
    by_cases hmark : includeMark <+: text
    · by_cases hwell : IsMalformed text
      · rw [expandText_malformed config top path splice htext hmark hwell]
        exact .malformed hmark hwell (ih (line + 1) budget hmost)
      · by_cases hother : NamesItself config top path text
        · rw [expandText_selfInclude config top path splice htext hmark hwell hother]
          exact .selfInclude hmark hwell hother
        · cases budget with
          | zero =>
            rw [expandText_refused config top path splice htext hmark hwell hother]
            exact .refused hmark hwell hother (ih (line + 1) 0 hmost)
          | succ budget =>
            have hfile := hsplice budget (config.path (directiveName text)) hmost
            rw [expandText_spliced config top path splice htext hmark hwell hother]
            exact .spliced hmark hwell hother hfile
              (ih (line + 1) _ (hfile.1.trans (Nat.le_of_succ_le hmost)))
    · rw [expandText_plain config top path splice htext hmark]
      exact .plain hmark (ih (line + 1) budget hmost)

/-- The walk over the lines of a text is the walk over the text behind one more line feed. -/
theorem expandText_linesOf (path : Path) (line budget : Nat) (source : List Char) :
    expandText config top path splice line budget (below (linesOf source)) =
      (expandText config top path splice (line + 1) budget source).prepend ['\n'] [] := by
  obtain ⟨first, others, hlines⟩ := List.exists_cons_of_ne_nil (linesOf_ne_nil source)
  rw [hlines, expandText_below_cons, ← joinLines_cons, ← hlines, joinLines_linesOf]

/-- A file is walked by the rules if the files that it includes are. -/
theorem readWith_follows
    (hsplice : ∀ budget target, budget < most →
      WalkFollows files config top target budget (splice budget target))
    (budget : Nat) (path : Path) (hmost : budget ≤ most) :
    WalkFollows files config top path budget
      (readWith files config top splice budget path) := by
  unfold readWith
  cases hload : loadSource files config.maxSourceSize path with
  | error fault =>
    refine ⟨le_refl _, fun depth state hbudget => ⟨[.blank], ?_, rfl⟩⟩
    rw [ExpansionState.absorb_failed _ hbudget]
    exact .missing hload
  | ok source =>
    have hfeed : ∀ text ∈ linesOf source.text.toList, '\n' ∉ text := fun _ h =>
      feed_not_mem_of_mem_linesOf h
    obtain ⟨hless, hfollows⟩ := expandText_follows hsplice path hfeed 0 budget hmost
    rw [expandText_linesOf] at hless hfollows
    refine ⟨hless, fun depth state hbudget => ?_⟩
    obtain ⟨output, hlines, hwritten⟩ := hfollows depth false (state.note path) hbudget
    rw [ExpansionState.absorb_prepend_nil] at hlines
    refine ⟨output, ?_, hwritten⟩
    rw [ExpansionState.absorb_prepend_opened]
    exact .loaded hload hlines

/-- The depth that a walk may nest to is enough for the budget that it begins with. -/
theorem expandFile_follows (depth budget : Nat) (path : Path) (hdepth : budget ≤ depth) :
    WalkFollows files config top path budget
      (expandFile files config top depth budget path) := by
  induction depth generalizing budget path with
  | zero =>
    have hnone : ∀ b target, b < 0 → WalkFollows files config top target b ⟨[], b, []⟩ :=
      fun b target h => absurd h (Nat.not_lt_zero b)
    exact readWith_follows hnone budget path hdepth
  | succ depth ih =>
    have hless : ∀ b target, b < depth + 1 →
        WalkFollows files config top target b (expandFile files config top depth b target) :=
      fun b target h => ih b target (Nat.le_of_lt_succ h)
    exact readWith_follows hless budget path hdepth

end Follows

variable {files : Files} {config : ShaderConfig} {top path : Path}

/-- The walk over a top-level file is one that the rules allow: its text is the one they give, and
so is all that is reported about it. -/
theorem walkFile_follows (files : Files) (config : ShaderConfig) (top : Path) (budget : Int) :
    ∃ output final, ExpandsTop files config top budget output final ∧
      (walkFile files config top budget).text = joinLines (output.map OutputLine.text) ∧
      (Expansion.ofWalk top (walkFile files config top budget)).report = final.report top := by
  unfold walkFile
  split
  · rename_i hbudget
    refine ⟨[.blank], _, .refused (by omega), rfl, rfl⟩
  · rename_i budget' hbudget
    have hspent : (ExpansionState.initial budget).spend.budget = (budget' : Int) := by
      change budget - 1 = budget'
      omega
    obtain ⟨output, hfile, hwritten⟩ :=
      (expandFile_follows budget' budget' top (le_refl _)).2 0 _ hspent
    refine ⟨output, _, .expanded (by omega) hfile, ?_, ?_⟩
    · cases output with
      | nil => simp at hwritten
      | cons first others =>
        rw [List.map_cons, below_cons] at hwritten
        rw [List.map_cons, joinLines_cons]
        exact (List.cons.inj hwritten).2
    · simp [Expansion.ofWalk, ExpansionState.report, ExpansionState.absorb, ExpansionState.initial,
        ExpansionState.spend]

/-- While the cap on sizes leaves room for one more byte, reading a file never fails over it. -/
theorem loadSource_ne_capOverflow {cap : Nat} (hcap : cap < sizeMax) (path : Path) :
    loadSource files cap path ≠ .error .capOverflow := by
  have hroom : ¬ sizeMax < cap + 1 := by omega
  unfold loadSource
  split
  · simp
  · simp [hroom]
  · simp [hroom]

/-- While the cap on sizes leaves room for one more byte, the walk never breaks off. -/
theorem walkFile_not_overflow (hsize : config.maxSourceSize < sizeMax) (budget : Int) :
    (walkFile files config top budget).events.any IncludeEvent.isOverflow = false := by
  rw [List.any_eq_false]
  have hfailed : ∀ path fault, True → loadSource files config.maxSourceSize path = .error fault →
      ¬ (IncludeEvent.failed path fault).isOverflow = true := by
    intro path fault _ hload
    cases fault with
    | capOverflow => exact absurd hload (loadSource_ne_capOverflow hsize path)
    | notFound => exact Bool.false_ne_true
    | unreadable => exact Bool.false_ne_true
  exact walkFile_events (fun _ _ => Bool.false_ne_true) (fun _ _ _ => Bool.false_ne_true)
    Bool.false_ne_true (fun _ _ _ _ => Bool.false_ne_true) hfailed (fun _ _ _ => trivial) budget
    trivial

/-- While the cap on sizes leaves room for one more byte, every file can be expanded. -/
theorem expandBounded_eq (hsize : config.maxSourceSize < sizeMax) (budget : Int) :
    expandBounded files config top budget =
      .ok ((Expansion.ofWalk top (walkFile files config top budget)).capped top
        config.maxSourceSize) := by
  simp [expandBounded, walkFile_not_overflow hsize budget]

/-- Expanding a file is expanding it line by line and then cutting the text. The rules for lines
give every file an output, and before the cut the text, the files read and the findings are the
ones that the rules give. -/
theorem expandBounded_line_by_line (files : Files) (config : ShaderConfig) (top : Path)
    (budget : Int) (hsize : config.maxSourceSize < sizeMax) :
    ∃ uncut : Expansion, uncut = Expansion.ofWalk top (walkFile files config top budget) ∧
      expandBounded files config top budget = .ok (uncut.capped top config.maxSourceSize) ∧
      (∃ output final, ExpandsTop files config top budget output final) ∧
      ∀ output final, ExpandsTop files config top budget output final →
        uncut.text = String.ofList (joinLines (output.map OutputLine.text)) ∧
        uncut.report.files = final.files ∧
        uncut.report.findings =
          final.findings ++ if final.exhausted then [.tooManyIncludes top] else [] := by
  obtain ⟨output, final, hrules, hwritten, hreport⟩ := walkFile_follows files config top budget
  refine ⟨_, rfl, expandBounded_eq hsize budget, ⟨output, final, hrules⟩, ?_⟩
  intro output' final' hrules'
  obtain ⟨rfl, rfl⟩ := hrules.unique hrules'
  rw [hreport]
  exact ⟨congrArg String.ofList hwritten, rfl, rfl⟩

/-- A file that includes another one. -/
def twoFiles : Files := fun path =>
  if path.text = "top" then .file "#include \"part\"\nend".toUTF8
  else if path.text = "shaders/part" then .file "part".toUTF8
  else .absent

/-- The included file is followed by a marker, the end of the directive's line and the next line. -/
theorem expandBounded_line_by_line_twoFiles :
    ({} : ShaderConfig).maxSourceSize < sizeMax ∧
      ∃ output final, ExpandsTop twoFiles {} ⟨"top"⟩ 2 output final ∧
        String.ofList (joinLines (output.map OutputLine.text)) = "part\n#line 1\n\nend" ∧
        final.files = [⟨"top"⟩, ⟨"shaders/part"⟩] := by
  obtain ⟨uncut, huncut, -, ⟨output, final, hrules⟩, hall⟩ :=
    expandBounded_line_by_line twoFiles {} ⟨"top"⟩ 2 (by decide)
  obtain ⟨htext, hfiles, -⟩ := hall output final hrules
  have hwalk : (walkFile twoFiles {} ⟨"top"⟩ 2).text = "part\n#line 1\n\nend".toList := by
    decide +kernel
  have hread : (Expansion.ofWalk ⟨"top"⟩ (walkFile twoFiles {} ⟨"top"⟩ 2)).report.files =
      [⟨"top"⟩, ⟨"shaders/part"⟩] := by
    decide +kernel
  refine ⟨by decide, output, final, hrules, ?_, ?_⟩
  · rw [← htext, huncut, Expansion.ofWalk, hwalk, String.ofList_toList]
  · rw [← hfiles, huncut, hread]

end Shaderbox
