import Shaderbox.Proofs.ExpansionSteps

/-!
# What the include budget is spent on

Every expansion ends, whatever includes what. Each file that it tried to read took one unit of the
budget and is told by the report, either among the files that were read or as a missing one. That
the budget ran out is reported once, exactly when a directive asked for a unit that was not there:
behind everything found on the way, and before what the cut at the end has to say.
-/

namespace Shaderbox

open Relation

/-- Whether a finding tells of a file that was not read. -/
def Finding.isMissingFile : Finding → Bool
  | .missingFile _ => true
  | _ => false

/-- Whether a finding tells of one place in the files: a missing file or a directive left there. -/
def Finding.isPlaced : Finding → Bool
  | .missingFile _ => true
  | .malformedInclude .. => true
  | .selfInclude .. => true
  | _ => false

/-- Whether a finding tells of text that was cut off. -/
def Finding.isTruncation : Finding → Bool
  | .outputTruncated .. => true
  | _ => false

section Events

variable (events : List IncludeEvent)

/-- Every file that was tried was either read or found missing. -/
theorem length_attempts_eq :
    (events.filterMap IncludeEvent.attempt?).length =
      (events.filterMap IncludeEvent.file?).length +
        (events.filterMap IncludeEvent.finding?).countP Finding.isMissingFile := by
  induction events with
  | nil => rfl
  | cons event rest ih =>
    simp only [List.filterMap_cons]
    cases event with
    | opened => exact (congrArg (· + 1) ih).trans (Nat.add_right_comm _ _ _)
    | failed =>
      dsimp only [IncludeEvent.attempt?, IncludeEvent.file?, IncludeEvent.finding?]
      rw [List.length_cons, List.countP_cons_of_pos rfl, ih, Nat.add_assoc]
    | malformed => exact ih
    | selfIncluded => exact ih
    | refused => exact ih

/-- What is found on the way tells of places in the files. -/
theorem isPlaced_of_mem_findings {finding : Finding}
    (h : finding ∈ events.filterMap IncludeEvent.finding?) : finding.isPlaced = true := by
  obtain ⟨event, -, hevent⟩ := List.mem_filterMap.mp h
  cases event <;> cases hevent <;> rfl

end Events

/-- What is reported about a walk: what it found on the way, whether the budget ran out, and what
the cut at the end has to say. -/
theorem findings_capped_ofWalk (path : Path) (limit : Nat) (walk : Walk) :
    ∃ cuts, (∀ finding ∈ cuts, finding.isTruncation = true) ∧
      ((Expansion.ofWalk path walk).capped path limit).report.findings =
        walk.events.filterMap IncludeEvent.finding? ++
          (if walk.refuses then [Finding.tooManyIncludes path] else []) ++ cuts := by
  unfold Expansion.capped Expansion.cut
  split
  · exact ⟨[], by simp, (List.append_nil _).symm⟩
  · exact ⟨[.outputTruncated path limit], by simp [Finding.isTruncation], rfl⟩

/-- What is said about the budget or about a cut is not about a missing file. -/
theorem countP_isMissingFile (found cuts : List Finding) (exhausted : Bool) (path : Path)
    (hcuts : ∀ finding ∈ cuts, finding.isTruncation = true) :
    (found ++ (if exhausted then [Finding.tooManyIncludes path] else []) ++ cuts).countP
      Finding.isMissingFile = found.countP Finding.isMissingFile := by
  have hnone : cuts.countP Finding.isMissingFile = 0 := by
    refine List.countP_eq_zero.mpr fun finding hfinding => ?_
    have htruncation := hcuts finding hfinding
    cases finding <;> first | exact Bool.false_ne_true | cases htruncation
  rw [List.countP_append, List.countP_append, hnone]
  cases exhausted <;> rfl

section Refusal

variable {files : Files} {config : ShaderConfig} {top : Path}

/-- Whether the next line is a directive that is well formed and names another file, and there is no
budget for it. -/
def Standing.Refuses (config : ShaderConfig) (top : Path) (standing : Standing) : Prop :=
  ∃ path line text rest outer, standing.underWay = ⟨path, line, text :: rest⟩ :: outer ∧
    standing.budget = 0 ∧ includeMark <+: text ∧ ¬ IsMalformed text ∧
    ¬ NamesItself config top path text

theorem refuses_iff {path : Path} {line budget : Nat} {text : List Char} {rest : List (List Char)}
    {outer : List OpenFile} {events : List IncludeEvent} :
    Standing.Refuses config top ⟨⟨path, line, text :: rest⟩ :: outer, budget, events⟩ ↔
      budget = 0 ∧ includeMark <+: text ∧ ¬ IsMalformed text ∧
        ¬ NamesItself config top path text := by
  constructor
  · rintro ⟨_, _, _, _, _, hunderWay, h⟩
    cases hunderWay
    exact h
  · exact fun h => ⟨_, _, _, _, _, rfl, h⟩

/-- A step records a refusal exactly where there is one. -/
theorem Advances.refused_mem_iff {standing next : Standing}
    (h : Advances files config top standing next) :
    .refused ∈ next.events ↔ .refused ∈ standing.events ∨ standing.Refuses config top := by
  cases h with
  | finished => simp [Standing.Refuses]
  | plain hplain => simp [refuses_iff, hplain]
  | malformed _ hmalformed => simp [refuses_iff, hmalformed]
  | selfInclude _ _ hitself => simp [refuses_iff, hitself]
  | refused hmark hwell hother => simp [refuses_iff, hmark, hwell, hother]
  | @entered path line text =>
    obtain ⟨event, hattempt, hevents⟩ :=
      Standing.events_enter files config (config.path (directiveName text)) _
    have hevent : IncludeEvent.refused ≠ event := by
      rintro rfl
      cases hattempt
    rw [hevents]
    simp [refuses_iff, hevent]

/-- A run to the end has recorded a refusal exactly when it came by one. -/
theorem refused_mem_iff_of_finished {standing final : Standing}
    (h : ReflTransGen (Advances files config top) standing final) (hfinal : final.underWay = []) :
    .refused ∈ final.events ↔ .refused ∈ standing.events ∨
      ∃ met, ReflTransGen (Advances files config top) standing met ∧ met.Refuses config top := by
  induction h using ReflTransGen.head_induction_on with
  | refl =>
    refine ⟨.inl, fun h => h.elim id ?_⟩
    rintro ⟨met, hmet, path, line, text, rest, outer, hunderWay, -⟩
    rcases hmet.cases_head with rfl | ⟨_, hstep, -⟩
    · simp [hfinal] at hunderWay
    · exact absurd hfinal hstep.underWay_ne_nil
  | head hstep hrest ih =>
    rw [ih, hstep.refused_mem_iff, or_assoc]
    refine or_congr_right ⟨?_, ?_⟩
    · rintro (hhere | ⟨met, hmet, hrefuses⟩)
      · exact ⟨_, .refl, hhere⟩
      · exact ⟨met, .head hstep hmet, hrefuses⟩
    · rintro ⟨met, hmet, hrefuses⟩
      rcases hmet.cases_head with rfl | ⟨other, hother, hmet⟩
      · exact .inl hrefuses
      · obtain rfl := hstep.unique hother
        exact .inr ⟨met, hmet, hrefuses⟩

end Refusal

/-- Whether an expansion asks for more than its budget: for its top-level file, or for a directive
that it comes to. -/
def AsksTooMuch (files : Files) (config : ShaderConfig) (top : Path) (budget : Int) : Prop :=
  budget ≤ 0 ∨ ∃ standing, Reaches files config top budget standing ∧ standing.Refuses config top

/-- A walk records a refusal exactly when the expansion asks for more than its budget. -/
theorem refuses_walkFile_iff (files : Files) (config : ShaderConfig) (top : Path) (budget : Int) :
    (walkFile files config top budget).refuses = true ↔ AsksTooMuch files config top budget := by
  have hmem : (walkFile files config top budget).refuses = true ↔
      .refused ∈ (walkFile files config top budget).events := by
    unfold Walk.refuses
    rw [List.any_eq_true]
    constructor
    · rintro ⟨event, hevent, hrefusal⟩
      cases event <;> first | exact hevent | cases hrefusal
    · exact fun h => ⟨_, h, rfl⟩
  have hfirst : .refused ∈ (Standing.initial files config top budget).events ↔ budget ≤ 0 := by
    unfold Standing.initial
    split
    · exact iff_of_true (List.mem_singleton_self _) (by omega)
    · obtain ⟨event, hattempt, hevents⟩ := Standing.events_enter files config top ⟨[], _, []⟩
      refine iff_of_false ?_ (by omega)
      rw [hevents, List.nil_append, List.mem_singleton]
      rintro rfl
      cases hattempt
  rw [hmem, AsksTooMuch, ← hfirst]
  exact refused_mem_iff_of_finished (reaches_walkFile files config top budget) rfl

/-- Every expansion ends, and accounts for its budget. The files that were read and the missing ones
are those that it tried to read, no more than the budget. Whether it asked for more is reported
once, behind what was found on the way and before what is said about a cut. -/
theorem expandBounded_accounts (files : Files) (config : ShaderConfig) (top : Path) (budget : Int)
    (hsize : config.maxSourceSize < sizeMax) :
    WellFounded (fun next standing => Advances files config top standing next) ∧
    Reaches files config top budget
      ⟨[], (walkFile files config top budget).budget, (walkFile files config top budget).events⟩ ∧
    ∃ expansion, expandBounded files config top budget = .ok expansion ∧
      expansion.report.files.length +
          expansion.report.findings.countP Finding.isMissingFile =
        (walkFile files config top budget).attempts.length ∧
      ((walkFile files config top budget).attempts.length : Int) ≤ max budget 0 ∧
      ∃ found cuts,
        (∀ finding ∈ found, finding.isPlaced = true) ∧
        (∀ finding ∈ cuts, finding.isTruncation = true) ∧
        (AsksTooMuch files config top budget ∧
            expansion.report.findings = found ++ .tooManyIncludes top :: cuts ∨
          ¬ AsksTooMuch files config top budget ∧
            expansion.report.findings = found ++ cuts) := by
  obtain ⟨cuts, hcuts, hfindings⟩ := findings_capped_ofWalk top config.maxSourceSize
    (walkFile files config top budget)
  refine ⟨advances_wellFounded, reaches_walkFile files config top budget, _,
    expandBounded_eq hsize budget, ?_, ?_, (walkFile files config top budget).events.filterMap
      IncludeEvent.finding?, cuts, fun _ => isPlaced_of_mem_findings _, hcuts, ?_⟩
  · rw [hfindings, countP_isMissingFile _ _ _ _ hcuts, Expansion.files_capped]
    exact (length_attempts_eq _).symm
  · have hspends := (walkFile_spends files config top budget).length_attempts_le
    omega
  · rw [hfindings, ← refuses_walkFile_iff]
    cases (walkFile files config top budget).refuses with
    | true => exact .inl ⟨rfl, by rw [List.append_assoc]; rfl⟩
    | false => exact .inr ⟨Bool.false_ne_true, by rw [List.append_assoc]; rfl⟩

/-- Two files that include each other, behind the top-level one. -/
def circularFiles : Files := fun path =>
  if path.text = "shaders/odd" then .file "#include \"even\"".toUTF8
  else .file "#include \"odd\"\n#include \"../outside\"".toUTF8

/-- A budget of three is spent once on each of them, and the next directive asks for more. -/
theorem expandBounded_accounts_circularFiles :
    ({} : ShaderConfig).maxSourceSize < sizeMax ∧
      ∃ expansion, expandBounded circularFiles {} ⟨"top"⟩ 3 = .ok expansion ∧
        expansion.report.files.length +
          expansion.report.findings.countP Finding.isMissingFile = 3 ∧
        .tooManyIncludes ⟨"top"⟩ ∈ expansion.report.findings := by
  obtain ⟨-, -, expansion, hexpansion, hcount, -, found, cuts, -, -, hfindings⟩ :=
    expandBounded_accounts circularFiles {} ⟨"top"⟩ 3 (by decide)
  obtain ⟨hattempts, hrefuses⟩ : (walkFile circularFiles {} ⟨"top"⟩ 3).attempts.length = 3 ∧
      (walkFile circularFiles {} ⟨"top"⟩ 3).refuses = true := by decide +kernel
  have hasks : AsksTooMuch circularFiles {} ⟨"top"⟩ 3 :=
    (refuses_walkFile_iff circularFiles {} ⟨"top"⟩ 3).mp hrefuses
  refine ⟨by decide, expansion, hexpansion, hcount.trans hattempts, ?_⟩
  rcases hfindings with ⟨-, hfindings⟩ | ⟨hnot, -⟩
  · simp [hfindings]
  · exact absurd hasks hnot

end Shaderbox
