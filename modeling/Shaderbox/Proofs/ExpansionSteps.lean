import Shaderbox.Proofs.WalkAttempts
import Mathlib.Data.Prod.Lex
import Mathlib.Logic.Relation

/-!
# Expansion step by step

The walk over a shader file recurses into the files that it includes. Here the same expansion is a
machine that takes one line at a time: where it stands is told by the lines that are left of every
file under way, by the budget, and by what has happened so far. So one can speak of the directive
that an expansion meets next, in whatever file it stands and with whatever is left of the budget.

Reading a file lowers the budget, and every other step leaves fewer lines. So no expansion goes on
forever, however files include each other, and the walk is where each one ends.
-/

namespace Shaderbox

open Relation

/-- A file under way: the lines that are left of it, and the number of the first of them. -/
structure OpenFile where
  path : Path
  line : Nat
  lines : List (List Char)

/-- Where an expansion stands. -/
structure Standing where
  /-- The files under way, each included by the one behind it. -/
  underWay : List OpenFile
  budget : Nat
  /-- What has happened so far. -/
  events : List IncludeEvent

/-- Read a file, and go on with its lines. -/
def Standing.enter (files : Files) (config : ShaderConfig) (target : Path)
    (standing : Standing) : Standing :=
  match loadSource files config.maxSourceSize target with
  | .error fault => { standing with events := standing.events ++ [.failed target fault] }
  | .ok source =>
    { standing with
      underWay := ⟨target, 1, linesOf source.text.toList⟩ :: standing.underWay
      events := standing.events ++ [.opened target source] }

/-- Where the expansion of a top-level file begins, which takes its own unit of the budget. -/
def Standing.initial (files : Files) (config : ShaderConfig) (top : Path) (budget : Int) :
    Standing :=
  match budget.toNat with
  | 0 => ⟨[], 0, [.refused]⟩
  | budget + 1 => Standing.enter files config top ⟨[], budget, []⟩

section Steps

variable (files : Files) (config : ShaderConfig) (top : Path)

/-- One step of an expansion: the end of a file, or what becomes of the next line. -/
inductive Advances : Standing → Standing → Prop where
  | finished {path line outer budget events} :
      Advances ⟨⟨path, line, []⟩ :: outer, budget, events⟩ ⟨outer, budget, events⟩
  | plain {path line text rest outer budget events} (notDirective : ¬ includeMark <+: text) :
      Advances ⟨⟨path, line, text :: rest⟩ :: outer, budget, events⟩
        ⟨⟨path, line + 1, rest⟩ :: outer, budget, events⟩
  | malformed {path line text rest outer budget events} (directive : includeMark <+: text)
      (malformed : IsMalformed text) :
      Advances ⟨⟨path, line, text :: rest⟩ :: outer, budget, events⟩
        ⟨⟨path, line + 1, rest⟩ :: outer, budget, events ++ [.malformed path line]⟩
  /-- A directive that names its own file or the top-level one ends the expansion of its file. -/
  | selfInclude {path line text rest outer budget events} (directive : includeMark <+: text)
      (wellFormed : ¬ IsMalformed text) (itself : NamesItself config top path text) :
      Advances ⟨⟨path, line, text :: rest⟩ :: outer, budget, events⟩
        ⟨outer, budget, events ++ [.selfIncluded path line (directiveName text)]⟩
  | refused {path line text rest outer events} (directive : includeMark <+: text)
      (wellFormed : ¬ IsMalformed text) (other : ¬ NamesItself config top path text) :
      Advances ⟨⟨path, line, text :: rest⟩ :: outer, 0, events⟩
        ⟨⟨path, line + 1, rest⟩ :: outer, 0, events ++ [.refused]⟩
  /-- The lines of an included file come before those behind its directive. -/
  | entered {path line text rest outer budget events} (directive : includeMark <+: text)
      (wellFormed : ¬ IsMalformed text) (other : ¬ NamesItself config top path text) :
      Advances ⟨⟨path, line, text :: rest⟩ :: outer, budget + 1, events⟩
        (Standing.enter files config (config.path (directiveName text))
          ⟨⟨path, line + 1, rest⟩ :: outer, budget, events⟩)

/-- Whether the expansion of a top-level file comes to stand there. -/
def Reaches (budget : Int) (standing : Standing) : Prop :=
  ReflTransGen (Advances files config top) (Standing.initial files config top budget) standing

end Steps

namespace Standing

variable (files : Files) (config : ShaderConfig) (target : Path) (standing : Standing)

@[simp] theorem budget_enter :
    (standing.enter files config target).budget = standing.budget := by
  unfold enter
  split <;> rfl

/-- Reading a file is noted as such. -/
theorem events_enter : ∃ event, event.attempt? = some target ∧
    (standing.enter files config target).events = standing.events ++ [event] := by
  unfold enter
  split
  · exact ⟨_, rfl, rfl⟩
  · exact ⟨_, rfl, rfl⟩

/-- The files that the expansion tried to read so far, in order. -/
def attempts : List Path :=
  standing.events.filterMap IncludeEvent.attempt?

/-- Whether that text is the next line. -/
def Meets (text : List Char) : Prop :=
  ∃ path line rest outer, standing.underWay = ⟨path, line, text :: rest⟩ :: outer

@[simp] theorem attempts_enter :
    (standing.enter files config target).attempts = standing.attempts ++ [target] := by
  obtain ⟨event, hevent, hevents⟩ := events_enter files config target standing
  simp [attempts, hevents, hevent]

end Standing

variable {files : Files} {config : ShaderConfig} {top : Path}

namespace Advances

variable {standing next other : Standing}

/-- An expansion has no choice. -/
theorem unique (h : Advances files config top standing next)
    (h' : Advances files config top standing other) : next = other := by
  cases h with
  | finished => cases h'; rfl
  | plain => cases h' <;> first | rfl | contradiction
  | malformed => cases h' <;> first | rfl | contradiction
  | selfInclude => cases h' <;> first | rfl | contradiction
  | refused => cases h' <;> first | rfl | contradiction
  | entered => cases h' <;> first | rfl | contradiction

/-- Once every file is finished nothing happens any more. -/
theorem underWay_ne_nil (h : Advances files config top standing next) : standing.underWay ≠ [] := by
  cases h <;> exact List.cons_ne_nil _ _

end Advances

section Termination

/-- How much of files under way is left: their lines, and the end of each. -/
def linesLeft : List OpenFile → Nat
  | [] => 0
  | file :: outer => file.lines.length + 1 + linesLeft outer

/-- Every step lowers the budget, or keeps it and leaves fewer lines. -/
theorem Advances.descends {standing next : Standing} (h : Advances files config top standing next) :
    Prod.Lex (· < ·) (· < ·) (next.budget, linesLeft next.underWay)
      (standing.budget, linesLeft standing.underWay) := by
  cases h with
  | entered => exact .left _ _ (by simp)
  | _ =>
    refine .right _ ?_
    simp only [linesLeft, List.length_cons]
    omega

/-- No expansion goes on forever. -/
theorem advances_wellFounded :
    WellFounded fun next standing => Advances files config top standing next :=
  Subrelation.wf Advances.descends <|
    InvImage.wf (fun standing : Standing => (standing.budget, linesLeft standing.underWay))
      (WellFounded.prod_lex wellFounded_lt wellFounded_lt)

end Termination

section Walk

variable (files config top)

/-- The expansion of the file at `path`, once that is read with a budget, goes on behind it with
what the walk over the file left and recorded. -/
def PassesThrough (path : Path) (budget : Nat) (walk : Walk) : Prop :=
  walk.budget ≤ budget ∧ ∀ outer events,
    ReflTransGen (Advances files config top)
      (Standing.enter files config path ⟨outer, budget, events⟩)
      ⟨outer, walk.budget, events ++ walk.events⟩

variable {files config top} {splice : Nat → Path → Walk} {most : Nat}

/-- If expansions of included files go the way of the walks over them, so does that of the lines of
the file that includes them. -/
theorem expandText_passesThrough
    (hsplice : ∀ budget target, budget < most →
      PassesThrough files config top target budget (splice budget target))
    (path : Path) {lines : List (List Char)} (hfeed : ∀ text ∈ lines, '\n' ∉ text)
    (line budget : Nat) (hmost : budget ≤ most) :
    (expandText config top path splice line budget (below lines)).budget ≤ budget ∧
      ∀ outer events,
        ReflTransGen (Advances files config top) ⟨⟨path, line + 1, lines⟩ :: outer, budget, events⟩
          ⟨outer, (expandText config top path splice line budget (below lines)).budget,
            events ++ (expandText config top path splice line budget (below lines)).events⟩ := by
  induction lines generalizing line budget with
  | nil =>
    rw [below_nil, expandText_nil]
    refine ⟨le_refl _, fun outer events => ?_⟩
    rw [List.append_nil]
    exact .single .finished
  | cons text rest ih =>
    have htext : '\n' ∉ text := hfeed text List.mem_cons_self
    replace ih := ih fun text h => hfeed text (List.mem_cons_of_mem _ h)
    rw [expandText_below_cons]
    by_cases hmark : includeMark <+: text
    · by_cases hwell : IsMalformed text
      · rw [expandText_malformed config top path splice htext hmark hwell]
        obtain ⟨hless, hrest⟩ := ih (line + 1) budget hmost
        refine ⟨hless, fun outer events => .head (.malformed hmark hwell) ?_⟩
        have hrest := hrest outer (events ++ [.malformed path (line + 1)])
        rw [List.append_assoc] at hrest
        exact hrest
      · by_cases hother : NamesItself config top path text
        · rw [expandText_selfInclude config top path splice htext hmark hwell hother]
          exact ⟨le_refl _, fun outer events => .single (.selfInclude hmark hwell hother)⟩
        · cases budget with
          | zero =>
            rw [expandText_refused config top path splice htext hmark hwell hother]
            obtain ⟨hless, hrest⟩ := ih (line + 1) 0 hmost
            refine ⟨hless, fun outer events => .head (.refused hmark hwell hother) ?_⟩
            have hrest := hrest outer (events ++ [.refused])
            rw [List.append_assoc] at hrest
            exact hrest
          | succ budget =>
            rw [expandText_spliced config top path splice htext hmark hwell hother]
            obtain ⟨hfileLess, hfile⟩ :=
              hsplice budget (config.path (directiveName text)) hmost
            obtain ⟨hless, hrest⟩ := ih (line + 1)
              (splice budget (config.path (directiveName text))).budget
              (hfileLess.trans (Nat.le_of_succ_le hmost))
            refine ⟨hless.trans (hfileLess.trans (Nat.le_succ budget)), fun outer events => ?_⟩
            refine .head (.entered hmark hwell hother) ((hfile _ events).trans ?_)
            have hrest := hrest outer
              (events ++ (splice budget (config.path (directiveName text))).events)
            rw [List.append_assoc] at hrest
            exact hrest
    · rw [expandText_plain config top path splice htext hmark]
      obtain ⟨hless, hrest⟩ := ih (line + 1) budget hmost
      exact ⟨hless, fun outer events => .head (.plain hmark) (hrest outer events)⟩

theorem readWith_passesThrough
    (hsplice : ∀ budget target, budget < most →
      PassesThrough files config top target budget (splice budget target))
    (budget : Nat) (path : Path) (hmost : budget ≤ most) :
    PassesThrough files config top path budget
      (readWith files config top splice budget path) := by
  unfold readWith PassesThrough Standing.enter
  cases hload : loadSource files config.maxSourceSize path with
  | error fault => exact ⟨le_refl _, fun outer events => .refl⟩
  | ok source =>
    have hfeed : ∀ text ∈ linesOf source.text.toList, '\n' ∉ text := fun _ h =>
      feed_not_mem_of_mem_linesOf h
    have hlines := expandText_passesThrough hsplice path hfeed 0 budget hmost
    rw [expandText_linesOf] at hlines
    obtain ⟨hless, hpasses⟩ := hlines
    refine ⟨hless, fun outer events => ?_⟩
    have hpasses := hpasses outer (events ++ [.opened path source])
    rw [List.append_assoc] at hpasses
    exact hpasses

theorem expandFile_passesThrough (depth budget : Nat) (path : Path) (hdepth : budget ≤ depth) :
    PassesThrough files config top path budget
      (expandFile files config top depth budget path) := by
  induction depth generalizing budget path with
  | zero =>
    have hnone : ∀ b target, b < 0 → PassesThrough files config top target b ⟨[], b, []⟩ :=
      fun b target h => absurd h (Nat.not_lt_zero b)
    exact readWith_passesThrough hnone budget path hdepth
  | succ depth ih =>
    have hless : ∀ b target, b < depth + 1 →
        PassesThrough files config top target b (expandFile files config top depth b target) :=
      fun b target h => ih b target (Nat.le_of_lt_succ h)
    exact readWith_passesThrough hless budget path hdepth

end Walk

/-- The expansion of a top-level file comes to an end, with what the walk over it left and
recorded. -/
theorem reaches_walkFile (files : Files) (config : ShaderConfig) (top : Path) (budget : Int) :
    Reaches files config top budget
      ⟨[], (walkFile files config top budget).budget,
        (walkFile files config top budget).events⟩ := by
  unfold Reaches walkFile Standing.initial
  cases budget.toNat with
  | zero => exact .refl
  | succ budget => exact (expandFile_passesThrough budget budget top (le_refl _)).2 [] []

/-- From wherever an expansion comes to stand, it goes on to that end. -/
theorem Reaches.to_walkFile {budget : Int} {standing : Standing}
    (h : Reaches files config top budget standing) :
    ReflTransGen (Advances files config top) standing
      ⟨[], (walkFile files config top budget).budget,
        (walkFile files config top budget).events⟩ := by
  have hunique : Relator.RightUnique (Advances files config top) :=
    fun _ _ _ hnext hother => hnext.unique hother
  rcases ReflTransGen.total_of_right_unique hunique h
    (reaches_walkFile files config top budget) with hon | hback
  · exact hon
  · rcases hback.cases_head with rfl | ⟨_, hstep, -⟩
    · exact .refl
    · exact absurd rfl hstep.underWay_ne_nil

end Shaderbox
