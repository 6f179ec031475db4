import Shaderbox.Proofs.LineNumbers
import Shaderbox.Proofs.ReportFlags

/-!
# Clean expansions are closed

A report without a finding about a directive that was left in place is clean. Then every directive
met was replaced, and what stands in its place are lines of other files, markers and empty lines. So
no line of the text begins like a directive, also not after a cut, and expanding the text once more
gives it back.
-/

namespace Shaderbox

/-- Whether the finding tells of a directive that was left in place. -/
def Finding.leavesDirective : Finding → Bool
  | .malformedInclude .. => true
  | .selfInclude .. => true
  | .tooManyIncludes _ => true
  | _ => false

/-- Whether no directive was left in place. -/
def ExpansionReport.IsClean (report : ExpansionReport) : Prop :=
  ∀ finding ∈ report.findings, finding.leavesDirective = false

/-- Whether no directive was left in place so far. -/
def ExpansionState.IsClean (state : ExpansionState) : Prop :=
  state.exhausted = false ∧ ∀ finding ∈ state.findings, finding.leavesDirective = false

/-- A single line that does not begin like a directive. -/
def IsPlainLine (text : List Char) : Prop :=
  '\n' ∉ text ∧ ¬ includeMark <+: text

section Texts

/-- A text without directives has none when its end is cut off. -/
theorem directiveFrom_take {offset : Nat} {lineStart : Bool} {source : List Char}
    (h : directiveFrom offset lineStart source = none) (count : Nat) :
    directiveFrom offset lineStart (source.take count) = none := by
  induction source generalizing offset lineStart count with
  | nil => simp [directiveFrom]
  | cons c rest ih =>
    cases count with
    | zero => rfl
    | succ count =>
      rw [directiveFrom] at h
      split at h
      · contradiction
      · rename_i hmark
        rw [List.take_succ_cons, directiveFrom, if_neg, ih h count]
        intro hshort
        rw [Bool.and_eq_true, List.isPrefixOf_iff_prefix] at hmark hshort
        exact hmark ⟨hshort.1, hshort.2.trans (List.take_prefix (count + 1) (c :: rest))⟩

/-- Plain lines put together make a text without directives. -/
theorem directive?_joinLines {lines : List (List Char)} (h : ∀ line ∈ lines, IsPlainLine line) :
    directive? (joinLines lines) = none := by
  induction lines with
  | nil => rfl
  | cons line rest ih =>
    obtain ⟨hfeed, hplain⟩ := h line List.mem_cons_self
    cases rest with
    | nil =>
      rw [joinLines_singleton]
      exact directive?_last_line hfeed hplain
    | cons next rest =>
      rw [joinLines_cons_cons, directive?_plain_line hfeed hplain,
        ih fun line hline => h line (List.mem_cons_of_mem _ hline)]
      rfl

/-- In a text without directives no line begins like one. -/
theorem not_mark_of_directive?_eq_none {text : List Char} (h : directive? text = none) :
    ∀ line ∈ linesOf text, ¬ includeMark <+: line := by
  have hfeed : ∀ line ∈ linesOf text, '\n' ∉ line := fun _ => feed_not_mem_of_mem_linesOf
  rw [← joinLines_linesOf text] at h
  generalize linesOf text = lines at h hfeed
  induction lines with
  | nil => simp
  | cons first rest ih =>
    have hplain : ¬ includeMark <+: first := by
      intro hmark
      rw [joinLines_cons, directive?_of_mark (hmark.trans (List.prefix_append _ _))] at h
      contradiction
    have hrest : ∀ line ∈ rest, ¬ includeMark <+: line := by
      cases rest with
      | nil => simp
      | cons next rest =>
        rw [joinLines_cons_cons, directive?_plain_line (hfeed first List.mem_cons_self) hplain,
          Option.map_eq_none_iff] at h
        exact ih h fun line hline => hfeed line (List.mem_cons_of_mem _ hline)
    exact List.forall_mem_cons.mpr ⟨hplain, hrest⟩

/-- A marker does not begin like a directive. -/
theorem isPlainLine_markerText (line : Nat) : IsPlainLine (markerText line) := by
  refine ⟨feed_not_mem_markerText line, fun hmark => ?_⟩
  have hline : lineMark <+: markerText line := by
    rw [markerText_eq, List.append_assoc]
    exact List.prefix_append _ _
  have hshort : includeMark.take lineMark.length = lineMark :=
    (List.prefix_of_prefix_length_le ((List.take_prefix _ _).trans hmark) hline
      (List.length_take_le _ _)).eq_of_length (by decide)
  exact absurd hshort (by decide)

theorem isPlainLine_nil : IsPlainLine [] := ⟨by simp, by decide⟩

/-- What stands in the place of a directive is plain when the lines of its file are. -/
theorem isPlainLine_spliced {body output : List OutputLine}
    (hbody : ∀ label ∈ body, IsPlainLine label.text) (line : Nat) (rest : List (List Char))
    (houtput : ∀ label ∈ output, IsPlainLine label.text) :
    ∀ label ∈ body ++ .marker line :: directiveRemnant rest ++ output,
      IsPlainLine label.text := by
  have hremnant : ∀ label ∈ directiveRemnant rest, IsPlainLine label.text := by
    unfold directiveRemnant
    split
    · simp
    · exact List.forall_mem_singleton.mpr isPlainLine_nil
  refine List.forall_mem_append.mpr ⟨List.forall_mem_append.mpr ⟨hbody, ?_⟩, houtput⟩
  exact List.forall_mem_cons.mpr ⟨isPlainLine_markerText line, hremnant⟩

end Texts

section Rules

variable {files : Files} {config : ShaderConfig} {top path : Path}

/-- A state is clean if it was before something was recorded. -/
theorem ExpansionState.IsClean.of_record {state : ExpansionState} {finding : Finding}
    (h : (state.record finding).IsClean) : state.IsClean ∧ finding.leavesDirective = false := by
  obtain ⟨hexhausted, hfindings⟩ := h
  rw [ExpansionState.record, List.forall_mem_append, List.forall_mem_singleton] at hfindings
  exact ⟨⟨hexhausted, hfindings.1⟩, hfindings.2⟩

/-- When no directive of a file is left in place, all lines of output are plain. -/
theorem ExpandsLines.isPlainLine_of_isClean {depth line : Nat} {behind : Bool}
    {lines : List (List Char)} {state final : ExpansionState} {output : List OutputLine}
    (h : ExpandsLines files config top depth path line behind lines state output final)
    (hfeed : ∀ text ∈ lines, '\n' ∉ text) (hclean : final.IsClean) :
    state.IsClean ∧ ∀ label ∈ output, IsPlainLine label.text := by
  induction h with
  | finished => exact ⟨hclean, by simp⟩
  | plain notDirective _ ih =>
    rw [List.forall_mem_cons] at hfeed
    obtain ⟨hstate, hrest⟩ := ih hfeed.2 hclean
    exact ⟨hstate, List.forall_mem_cons.mpr ⟨⟨hfeed.1, notDirective⟩, hrest⟩⟩
  | malformed _ _ _ ih =>
    obtain ⟨hstate, -⟩ := ih (fun text h => hfeed text (List.mem_cons_of_mem _ h)) hclean
    cases hstate.of_record.2
  | selfInclude => cases hclean.of_record.2
  | refused _ _ _ _ _ ih =>
    obtain ⟨hstate, -⟩ := ih (fun text h => hfeed text (List.mem_cons_of_mem _ h)) hclean
    cases hstate.1
  | missing _ _ _ _ _ _ ih =>
    rw [List.forall_mem_cons] at hfeed
    obtain ⟨hstate, hrest⟩ := ih hfeed.2 hclean
    have hblank : ∀ label ∈ [OutputLine.blank], IsPlainLine label.text :=
      List.forall_mem_singleton.mpr isPlainLine_nil
    exact ⟨hstate.of_record.1, isPlainLine_spliced hblank _ _ hrest⟩
  | spliced _ _ _ _ _ _ _ ihInner ihTail =>
    rw [List.forall_mem_cons] at hfeed
    obtain ⟨hbetween, hrest⟩ := ihTail hfeed.2 hclean
    obtain ⟨hstate, hbody⟩ := ihInner (fun _ => feed_not_mem_of_mem_linesOf) hbetween
    exact ⟨hstate, isPlainLine_spliced hbody _ _ hrest⟩

/-- When no directive is left in place, the lines of a top-level file expand to plain lines. -/
theorem ExpandsTop.isPlainLine_of_isClean {budget : Int} {output : List OutputLine}
    {final : ExpansionState} (h : ExpandsTop files config top budget output final)
    (hclean : final.IsClean) : ∀ label ∈ output, IsPlainLine label.text := by
  cases h with
  | refused => cases hclean.1
  | expanded _ file =>
    cases file with
    | missing => exact List.forall_mem_singleton.mpr isPlainLine_nil
    | loaded _ lines =>
      exact (lines.isPlainLine_of_isClean (fun _ => feed_not_mem_of_mem_linesOf) hclean).2

/-- A clean report is that of a clean state. -/
theorem ExpansionState.isClean_of_report {state : ExpansionState}
    (h : (state.report top).IsClean) : state.IsClean := by
  unfold ExpansionReport.IsClean ExpansionState.report at h
  rw [List.forall_mem_append] at h
  refine ⟨?_, h.1⟩
  by_contra hexhausted
  rw [Bool.not_eq_false] at hexhausted
  rw [hexhausted, if_pos rfl, List.forall_mem_singleton] at h
  exact absurd h.2 (by simp [Finding.leavesDirective])

/-- When no directive is left in place, none is left in the text, before any cut. -/
theorem directive?_walkFile {budget : Int}
    (h : (Expansion.ofWalk top (walkFile files config top budget)).report.IsClean) :
    directive? (walkFile files config top budget).text = none := by
  obtain ⟨output, final, hrules, hwritten, hreport⟩ := walkFile_follows files config top budget
  rw [hreport] at h
  have hplain := hrules.isPlainLine_of_isClean (ExpansionState.isClean_of_report h)
  rw [hwritten]
  exact directive?_joinLines (List.forall_mem_map.mpr hplain)

end Rules

section Again

variable {files : Files} {config : ShaderConfig} {path : Path}

/-- Valid bytes are read as the text that they encode. -/
theorem Text.decode_toUTF8 (text : String) : decode text.toUTF8 = (text, true) := by
  have hread : String.fromUTF8? text.toUTF8 = some text := dif_pos text.isValidUTF8
  rw [decode, hread]

/-- A text that is written to a file is read as it was, unless it is too large. -/
theorem loadSource_toUTF8 {cap : Nat} {text : String} (hcap : cap < sizeMax)
    (hfits : text.utf8ByteSize ≤ cap) (hfile : files path = .file text.toUTF8) :
    loadSource files cap path = .ok ⟨text, true, true⟩ := by
  have hroom : ¬ sizeMax < cap + 1 := by omega
  have hcomplete : decide (text.toUTF8.size ≤ cap) = true := decide_eq_true hfits
  unfold loadSource
  simp only [hfile, hroom, if_false, hcomplete, if_true, Text.decode_toUTF8]

/-- A file without directives that is no larger than the cap expands to itself. -/
theorem walkFile_of_directive?_eq_none {text : String} {budget : Int}
    (hsize : config.maxSourceSize < sizeMax) (hfits : text.utf8ByteSize ≤ config.maxSourceSize)
    (hfile : files path = .file text.toUTF8) (hplain : directive? text.toList = none)
    (hbudget : 1 ≤ budget) :
    ∃ left, walkFile files config path budget =
      ⟨text.toList, left, [.opened path ⟨text, true, true⟩]⟩ := by
  have hread (splice : Nat → Path → Walk) (left : Nat) :
      readWith files config path splice left path =
        ⟨text.toList, left, [.opened path ⟨text, true, true⟩]⟩ := by
    unfold readWith
    rw [loadSource_toUTF8 hsize hfits hfile]
    dsimp only
    rw [expandText_eq, hplain]
    rfl
  unfold walkFile
  split
  · omega
  · rename_i left _
    refine ⟨left, ?_⟩
    cases left with
    | zero => exact hread _ 0
    | succ left => exact hread _ (left + 1)

end Again

/-- A cut leaves no more bytes than the limit, and none but leading characters. -/
theorem Expansion.capped_text (path : Path) (limit : Nat) (expansion : Expansion) :
    (expansion.capped path limit).text.utf8ByteSize ≤ limit ∧
      ∃ count, (expansion.capped path limit).text.toList = expansion.text.toList.take count := by
  unfold capped cut
  split
  · rename_i hfits
    exact ⟨hfits, expansion.text.toList.length, (List.take_length).symm⟩
  · refine ⟨?_, Text.fitting limit expansion.text.toList, String.toList_ofList⟩
    rw [cutText, Text.utf8ByteSize_ofList]
    exact Text.extent_prefixWithin_le limit _

/-- A report is clean when it is before the cut. -/
theorem Expansion.isClean_of_capped {path : Path} {limit : Nat} {expansion : Expansion}
    (h : (expansion.capped path limit).report.IsClean) : expansion.report.IsClean := by
  unfold capped cut at h
  split at h
  · exact h
  · exact (List.forall_mem_append.mp h).1

/-- A clean expansion is closed: no line of its text begins like a directive, and a file that holds
this text expands to it, with nothing to report but that the file was read. -/
theorem expandBounded_closed (files : Files) (config : ShaderConfig) (top : Path) (budget : Int)
    (hsize : config.maxSourceSize < sizeMax) :
    ∃ expansion, expandBounded files config top budget = .ok expansion ∧
      (expansion.report.IsClean →
        (∀ line ∈ linesOf expansion.text.toList, ¬ includeMark <+: line) ∧
        ∀ (files' : Files) (path : Path) (budget' : Int),
          files' path = .file expansion.text.toUTF8 → 1 ≤ budget' →
            ∃ again, expandBounded files' config path budget' = .ok again ∧
              again.text = expansion.text ∧ again.report = ⟨[], [path]⟩) := by
  refine ⟨_, expandBounded_eq hsize budget, fun hclean => ?_⟩
  obtain ⟨hfits, count, hcount⟩ := Expansion.capped_text top config.maxSourceSize
    (Expansion.ofWalk top (walkFile files config top budget))
  have hwhole := directive?_walkFile (Expansion.isClean_of_capped hclean)
  generalize (Expansion.ofWalk top (walkFile files config top budget)).capped top
    config.maxSourceSize = expansion at *
  have hplain : directive? expansion.text.toList = none := by
    rw [hcount, Expansion.ofWalk, String.toList_ofList]
    exact directiveFrom_take hwhole count
  refine ⟨not_mark_of_directive?_eq_none hplain, fun files' path budget' hfile hbudget => ?_⟩
  obtain ⟨left, hwalk⟩ := walkFile_of_directive?_eq_none hsize hfits hfile hplain hbudget
  have htext : (Expansion.ofWalk path (walkFile files' config path budget')).text =
      expansion.text := by
    rw [hwalk, Expansion.ofWalk, String.ofList_toList]
  refine ⟨_, expandBounded_eq hsize budget', ?_⟩
  rw [Expansion.capped_eq_self _ _ (htext ▸ hfits)]
  refine ⟨htext, ?_⟩
  rw [hwalk]
  rfl

/-- A file that includes another one of two lines twice. -/
def repeatedPart : Files := fun path =>
  if path.text = "top" then .file "#include \"part\"\n#include \"part\"".toUTF8
  else if path.text = "shaders/part" then .file "part one\npart two".toUTF8
  else .absent

/-- A file with a given text, and no other. -/
def singleFile (text : String) : Files := fun path =>
  if path.text = "again" then .file text.toUTF8 else .absent

/-- A cap of forty bytes cuts the second copy of the included file off within a line. -/
theorem expandBounded_closed_repeatedPart :
    ({ maxSourceSize := 40 } : ShaderConfig).maxSourceSize < sizeMax ∧
      ∃ expansion again,
        expandBounded repeatedPart { maxSourceSize := 40 } ⟨"top"⟩ 3 = .ok expansion ∧
        expansion.text = "part one\npart two\n#line 1\n\npart one\npart" ∧
        expansion.report.IsClean ∧
        (∀ line ∈ linesOf expansion.text.toList, ¬ includeMark <+: line) ∧
        expandBounded (singleFile expansion.text) { maxSourceSize := 40 } ⟨"again"⟩ 1 = .ok again ∧
        again.text = expansion.text ∧ again.report = ⟨[], [⟨"again"⟩]⟩ := by
  have hroom : ({ maxSourceSize := 40 } : ShaderConfig).maxSourceSize < sizeMax := by decide
  obtain ⟨expansion, hexpansion, hclosed⟩ :=
    expandBounded_closed repeatedPart { maxSourceSize := 40 } ⟨"top"⟩ 3 hroom
  have hsame := hexpansion.symm.trans (expandBounded_eq hroom 3)
  have htext : expansion.text = "part one\npart two\n#line 1\n\npart one\npart" := by
    rw [Except.ok.inj hsame]
    decide +kernel
  have hfindings : expansion.report.findings = [.outputTruncated ⟨"top"⟩ 40] := by
    rw [Except.ok.inj hsame]
    decide +kernel
  have hclean : expansion.report.IsClean := by
    rw [ExpansionReport.IsClean, hfindings]
    exact List.forall_mem_singleton.mpr rfl
  obtain ⟨hplain, hagain⟩ := hclosed hclean
  obtain ⟨again, hexpanded, hkept, hreport⟩ :=
    hagain (singleFile expansion.text) ⟨"again"⟩ 1 rfl (by decide)
  exact ⟨hroom, expansion, again, hexpansion, htext, hclean, hplain, hexpanded, hkept, hreport⟩

end Shaderbox
