import Shaderbox.Proofs.Confinement

/-!
# The report lists all that an expansion depends on

A file that cannot be opened and one that opens but cannot be read expand alike: to nothing, with
the same finding. They differ in what is logged only. So for the text and the report an expansion is
the one over a file system in which such files are absent, and there it depends on what is found at
the paths that it tries. Each of these is in the report, as a file that was read or as a missing
one.
-/

namespace Shaderbox

/-- The bytes that can be read, if any. -/
def Opening.content? : Opening → Option ByteArray
  | .file content => some content
  | _ => none

/-- The same files, where what cannot be read is not there. -/
def Files.readable (files : Files) : Files := fun path =>
  match (files path).content? with
  | some content => .file content
  | none => .absent

/-- The event without the reason why a file was not read. -/
def IncludeEvent.withoutReason : IncludeEvent → IncludeEvent
  | .failed path _ => .failed path .notFound
  | event => event

/-- The walk without the reasons why files were not read. -/
def Walk.withoutReasons (walk : Walk) : Walk :=
  { walk with events := walk.events.map IncludeEvent.withoutReason }

/-- Whether a report names a path, as that of a file that was read or of a missing one. -/
def ExpansionReport.Names (report : ExpansionReport) (path : Path) : Prop :=
  path ∈ report.files ∨ .missingFile path ∈ report.findings

namespace IncludeEvent

variable (event : IncludeEvent)

@[simp] theorem finding?_withoutReason : event.withoutReason.finding? = event.finding? := by
  cases event <;> rfl

@[simp] theorem file?_withoutReason : event.withoutReason.file? = event.file? := by
  cases event <;> rfl

@[simp] theorem attempt?_withoutReason : event.withoutReason.attempt? = event.attempt? := by
  cases event <;> rfl

@[simp] theorem isRefusal_withoutReason : event.withoutReason.isRefusal = event.isRefusal := by
  cases event <;> rfl

end IncludeEvent

namespace Walk

variable (walk : Walk)

theorem withoutReasons_prepend (text : List Char) (events : List IncludeEvent) :
    (walk.prepend text events).withoutReasons =
      walk.withoutReasons.prepend text (events.map IncludeEvent.withoutReason) := by
  simp [withoutReasons, prepend]

theorem attempts_withoutReasons : walk.withoutReasons.attempts = walk.attempts := by
  simp [withoutReasons, attempts, List.filterMap_map]

end Walk

section Forget

variable {files : Files} {config : ShaderConfig} {top : Path}

/-- What cannot be read is reported as not there, and all else is read as it is. -/
theorem loadSource_readable {cap : Nat} (hcap : cap < sizeMax) (path : Path) :
    loadSource files.readable cap path =
      match loadSource files cap path with
      | .ok source => .ok source
      | .error _ => .error .notFound := by
  have hroom : ¬ sizeMax < cap + 1 := by omega
  unfold loadSource Files.readable
  cases files path with
  | absent => rfl
  | unreadable => rfl
  | file content => simp [Opening.content?, hroom]

/-- Reasons do not matter to the walk over a text. -/
theorem expandText_withoutReasons (path : Path) (splice : Nat → Path → Walk) (line budget : Nat)
    (source : List Char) :
    expandText config top path (fun budget target => (splice budget target).withoutReasons) line
        budget source =
      (expandText config top path splice line budget source).withoutReasons := by
  fun_induction expandText config top path splice line budget source with
  | case1 _ _ _ hnone =>
    rw [expandText_eq, hnone]
    rfl
  | case2 _ _ _ _ hsome _ _ _ _ _ _ _ hname ih =>
    rw [expandText_eq, hsome, Walk.withoutReasons_prepend, ← ih]
    simp only [expandDirective]
    rw [hname]
    rfl
  | case3 _ _ _ _ hsome _ _ _ _ _ _ hname _ hself =>
    rw [expandText_eq, hsome]
    simp only [expandDirective]
    rw [hname]
    exact if_pos hself
  | case4 _ _ _ hsome _ _ _ _ _ _ _ _ hname _ hother ih =>
    rw [expandText_eq, hsome, Walk.withoutReasons_prepend, ← ih]
    simp only [expandDirective]
    rw [hname]
    exact if_neg hother
  | case5 _ _ _ hsome _ _ _ _ _ _ _ hname _ hother _ _ ih =>
    rw [expandText_eq, hsome, Walk.withoutReasons_prepend, ← ih]
    simp only [expandDirective]
    rw [hname]
    exact if_neg hother

variable (hsize : config.maxSourceSize < sizeMax)

include hsize

/-- What cannot be read may as well not be there, if that is so for included files. -/
theorem readWith_readable (splice : Nat → Path → Walk) (budget : Nat) (path : Path) :
    readWith files.readable config top (fun budget target => (splice budget target).withoutReasons)
        budget path =
      (readWith files config top splice budget path).withoutReasons := by
  unfold readWith
  rw [loadSource_readable hsize]
  cases loadSource files config.maxSourceSize path with
  | error fault => rfl
  | ok source =>
    dsimp only
    rw [expandText_withoutReasons, Walk.withoutReasons_prepend]
    rfl

theorem expandFile_readable (depth budget : Nat) (path : Path) :
    expandFile files.readable config top depth budget path =
      (expandFile files config top depth budget path).withoutReasons := by
  induction depth generalizing budget path with
  | zero => exact readWith_readable hsize (fun budget _ => ⟨[], budget, []⟩) budget path
  | succ depth ih =>
    have hsplice : expandFile files.readable config top depth = fun budget target =>
        (expandFile files config top depth budget target).withoutReasons :=
      funext fun budget => funext fun target => ih budget target
    rw [expandFile, hsplice]
    exact readWith_readable hsize _ budget path

/-- The walk over a top-level file does not depend on the reasons why files cannot be read. -/
theorem walkFile_readable (budget : Int) :
    walkFile files.readable config top budget =
      (walkFile files config top budget).withoutReasons := by
  unfold walkFile
  split
  · rfl
  · exact expandFile_readable hsize _ _ top

end Forget

variable {files files' : Files} {config : ShaderConfig} {top : Path}

/-- The reasons why files cannot be read only matter to the log. -/
theorem Expansion.ofWalk_withoutReasons (path : Path) (walk : Walk) :
    (ofWalk path walk.withoutReasons).text = (ofWalk path walk).text ∧
      (ofWalk path walk.withoutReasons).report = (ofWalk path walk).report := by
  constructor
  · rfl
  · simp [ofWalk, Walk.withoutReasons, List.filterMap_map, List.any_map]

/-- A cut does to a text and its report the same whatever the log. -/
theorem Expansion.capped_congr (path : Path) (limit : Nat) {expansion other : Expansion}
    (htext : other.text = expansion.text) (hreport : other.report = expansion.report) :
    (other.capped path limit).text = (expansion.capped path limit).text ∧
      (other.capped path limit).report = (expansion.capped path limit).report := by
  unfold capped cut
  rw [htext, hreport]
  split
  · exact ⟨htext, hreport⟩
  · exact ⟨rfl, rfl⟩

/-- A report names every path that the walk tried. -/
theorem names_of_mem_attempts {path : Path} {walk : Walk} (h : path ∈ walk.attempts) :
    ((Expansion.ofWalk top walk).capped top config.maxSourceSize).report.Names path := by
  obtain ⟨event, hevent, hattempt⟩ := List.mem_filterMap.mp h
  have hnames : (Expansion.ofWalk top walk).report.Names path := by
    cases event with
    | opened other source =>
      obtain rfl := Option.some.inj hattempt
      exact .inl (List.mem_filterMap.mpr ⟨_, hevent, rfl⟩)
    | failed other fault =>
      obtain rfl := Option.some.inj hattempt
      exact .inr (List.mem_append_left _ (List.mem_filterMap.mpr ⟨_, hevent, rfl⟩))
    | _ => contradiction
  unfold Expansion.capped Expansion.cut
  split
  · exact hnames
  · exact hnames.imp id (List.mem_append_left _)

/-- What can be read at the paths that a report names determines the text and the report. Whatever
is found at any other path does not matter at all. -/
theorem expandBounded_eq_of_content_eq (files : Files) (config : ShaderConfig) (top : Path)
    (budget : Int) (hsize : config.maxSourceSize < sizeMax) :
    ∃ expansion, expandBounded files config top budget = .ok expansion ∧
      (∀ files' : Files,
        (∀ path, expansion.report.Names path →
          (files' path).content? = (files path).content?) →
        ∃ other, expandBounded files' config top budget = .ok other ∧
          other.text = expansion.text ∧ other.report = expansion.report) ∧
      ∀ (path : Path) (opening : Opening), ¬ expansion.report.Names path →
        expandBounded (Function.update files path opening) config top budget = .ok expansion := by
  refine ⟨_, expandBounded_eq hsize budget, fun files' hsame => ?_, fun path opening hpath => ?_⟩
  · have halike : ReadAlike files.readable files'.readable config config
        (walkFile files.readable config top budget).attempts := by
      intro path hpath
      rw [walkFile_readable hsize, Walk.attempts_withoutReasons] at hpath
      unfold loadSource Files.readable
      rw [hsame path (names_of_mem_attempts hpath)]
    have hwalk := walkFile_congr rfl budget halike
    rw [walkFile_readable hsize, walkFile_readable hsize] at hwalk
    obtain ⟨htext, hreport⟩ :=
      Expansion.ofWalk_withoutReasons top (walkFile files config top budget)
    obtain ⟨htext', hreport'⟩ :=
      Expansion.ofWalk_withoutReasons top (walkFile files' config top budget)
    rw [hwalk] at htext' hreport'
    refine ⟨_, expandBounded_eq hsize budget, ?_⟩
    exact Expansion.capped_congr top _ (htext'.symm.trans htext) (hreport'.symm.trans hreport)
  · rw [← expandBounded_eq hsize budget]
    refine expandBounded_congr fun other hother => Function.update_of_ne ?_ _ _
    rintro rfl
    exact hpath (names_of_mem_attempts hother)

/-- A file that includes another one, at whose place something else is found. -/
def filesAround (opening : Opening) : Files := fun path =>
  if path.text = "top" then .file "#include \"part\"\nend".toUTF8
  else if path.text = "shaders/part" then opening
  else .absent

/-- A part that cannot be read is reported, and taking it away changes neither the text nor the
report. -/
theorem expandBounded_eq_of_content_eq_unreadable :
    ({} : ShaderConfig).maxSourceSize < sizeMax ∧
      ∃ expansion other, expandBounded (filesAround .unreadable) {} ⟨"top"⟩ 2 = .ok expansion ∧
        expansion.text = "\n#line 1\n\nend" ∧
        expansion.report = ⟨[.missingFile ⟨"shaders/part"⟩], [⟨"top"⟩]⟩ ∧
        expandBounded (filesAround .absent) {} ⟨"top"⟩ 2 = .ok other ∧
        other.text = expansion.text ∧ other.report = expansion.report := by
  have hroom : ({} : ShaderConfig).maxSourceSize < sizeMax := by decide
  obtain ⟨expansion, hexpansion, hdetermined, -⟩ :=
    expandBounded_eq_of_content_eq (filesAround .unreadable) {} ⟨"top"⟩ 2 hroom
  obtain ⟨other, hother, htext, hreport⟩ := hdetermined (filesAround .absent) fun path _ => by
    unfold filesAround
    split
    · rfl
    · split <;> rfl
  have hsame := hexpansion.symm.trans (expandBounded_eq hroom 2)
  obtain rfl := Except.ok.inj hsame
  refine ⟨hroom, _, other, hexpansion, ?_, ?_, hother, htext, hreport⟩
  · decide +kernel
  · decide +kernel

end Shaderbox
