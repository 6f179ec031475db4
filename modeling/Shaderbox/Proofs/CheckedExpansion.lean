import Shaderbox.Proofs.CheckedScan
import Shaderbox.Proofs.WalkRules

/-!
# Expansion with every offset checked

A text is expanded with two offsets into it: everything in front of the first was put out, and the
search for the next directive begins at the second. In between stand directives that stay in place,
so what is put out next begins at the first of the two. Here that is done with every slice, sum and
difference checked, and with a check that each round comes further.

None of the checks fails, and the outcome is that of the expansion over characters. The one
exception is the sum that asks for a byte more than the cap on sizes when a file is opened: it fails
if the cap is the largest size that can be counted. How much memory there is does not matter here.
-/

namespace Shaderbox

/-- The outcome of a walk in which the sum that asks for one more byte than the cap is checked. -/
def Walk.settled (walk : Walk) : Except OffsetFault Walk :=
  if walk.events.any IncludeEvent.isOverflow then .error .sum else .ok walk

/-- The outcome of reading a file in which that sum is checked. -/
def settledLoad :
    Except LoadFault LoadedSource → Except OffsetFault (Except LoadFault LoadedSource)
  | .error .capOverflow => .error .sum
  | loaded => .ok loaded

namespace Walk

variable {walk : Walk} {text : List Char} {events : List IncludeEvent}

theorem prepend_nil : walk.prepend [] [] = walk := rfl

theorem prepend_prepend (front : List Char) (first : List IncludeEvent) :
    (walk.prepend text events).prepend front first =
      walk.prepend (front ++ text) (first ++ events) := by
  simp [prepend]

/-- What is put in front of a walk makes no difference to how it ends, if it went well. -/
theorem settled_prepend (h : events.any IncludeEvent.isOverflow = false) :
    (walk.prepend text events).settled = do return (← walk.settled).prepend text events := by
  unfold settled prepend
  simp only [List.any_append, h, Bool.false_or]
  split
  · rfl
  · rfl

/-- After an overflow nothing that follows makes a difference. -/
theorem settled_prepend_overflow (h : events.any IncludeEvent.isOverflow = true) :
    (walk.prepend text events).settled = .error .sum := by
  unfold settled prepend
  simp only [List.any_append, h, Bool.true_or, if_true]

end Walk

/-- What becomes of a text at its first directive, in terms of the pieces of the text. -/
theorem expandText_found (config : ShaderConfig) (top path : Path) (splice : Nat → Path → Walk)
    (line budget : Nat) {before onLine rest : List Char} (honLine : '\n' ∉ onLine)
    (hrest : AtLineEnd rest)
    (hfound : directive? (before ++ (includeMark ++ (onLine ++ rest))) = some before.length) :
    expandText config top path splice line budget (before ++ (includeMark ++ (onLine ++ rest))) =
      match includeName? onLine with
      | none =>
        (expandText config top path splice (line + before.count '\n') budget rest).prepend
          (before ++ (includeMark ++ onLine)) [.malformed path (line + before.count '\n')]
      | some name =>
        if (config.path name).same path || (config.path name).same top then
          ⟨before ++ (includeMark ++ (onLine ++ rest)), budget,
            [.selfIncluded path (line + before.count '\n') name]⟩
        else match budget with
          | 0 =>
            (expandText config top path splice (line + before.count '\n') 0 rest).prepend
              (before ++ (includeMark ++ onLine)) [.refused]
          | budget + 1 =>
            let file := splice budget (config.path name)
            (expandText config top path splice (line + before.count '\n') file.budget rest).prepend
              (before ++ file.text ++ lineMarker (line + before.count '\n') rest) file.events := by
  have htake : (onLine ++ rest).takeWhile (· ≠ '\n') = onLine := by
    rw [takeWhile_append_of_not_mem honLine]
    rcases hrest with rfl | ⟨behind, rfl⟩
    · exact List.append_nil _
    · rw [List.takeWhile_cons, if_neg (by simp), List.append_nil]
  have hbehind : (before ++ (includeMark ++ (onLine ++ rest))).drop
      (before.length + includeMark.length) = onLine ++ rest := by
    rw [← List.append_assoc, ← List.length_append, List.drop_left]
  rw [expandText_eq, hfound]
  dsimp only
  rw [List.take_left, hbehind]
  unfold expandDirective
  dsimp only
  rw [htake, List.drop_left]
  cases includeName? onLine with
  | none => rw [List.append_assoc]
  | some name =>
    dsimp only
    split
    · rfl
    · cases budget with
      | zero => rw [List.append_assoc]
      | succ budget => rfl

namespace Checked

section Operations

/-- Read at most `cap` bytes of a file. -/
def loadSource (files : Files) (cap : Nat) (path : Path) :
    Except OffsetFault (Except LoadFault LoadedSource) :=
  match files path with
  | .absent => .ok (.error .notFound)
  | .unreadable => do
    let _most ← Text.checkedSum sizeMax cap 1
    return .error .unreadable
  | .file content => do
    let most ← Text.checkedSum sizeMax cap 1
    let read := content.extract 0 most
    let complete := decide (read.size ≤ cap)
    let (text, valid) := Text.decode (if complete then read else read.extract 0 cap)
    return .ok ⟨text, complete, valid⟩

/-- Expand a text of which everything in front of `emitted` was put out, searching from `scan` on.
-/
def expandFrom (config : ShaderConfig) (top path : Path)
    (splice : Nat → Path → Except OffsetFault Walk) (source : List Char)
    (emitted scan budget : Nat) : Except OffsetFault Walk := do
  match ← nextDirective source scan with
  | none => return ⟨← Text.sliceFrom emitted source, budget, []⟩
  | some start =>
    let ⟨lineEnd, line, name?⟩ ← readDirective source start
    if _progress : scan < lineEnd ∧ lineEnd ≤ Text.extent source then
      match name? with
      | none =>
        let rest ← expandFrom config top path splice source emitted lineEnd budget
        return rest.prepend [] [.malformed path line]
      | some name =>
        let target := config.path name
        if target.same path || target.same top then
          return ⟨← Text.sliceFrom emitted source, budget, [.selfIncluded path line name]⟩
        else match budget with
          | 0 =>
            let rest ← expandFrom config top path splice source emitted lineEnd 0
            return rest.prepend [] [.refused]
          | budget + 1 =>
            let kept ← Text.slice emitted start source
            let file ← splice budget target
            let marker := s!"\n#line {line}".toList ++
              if lineEnd < Text.extent source then ['\n'] else []
            let rest ← expandFrom config top path splice source lineEnd lineEnd file.budget
            return rest.prepend (kept ++ file.text ++ marker) file.events
    else .error .stuck
  termination_by Text.extent source - scan
  decreasing_by all_goals omega

/-- Read a file and expand its text. -/
def readWith (files : Files) (config : ShaderConfig) (top : Path)
    (splice : Nat → Path → Except OffsetFault Walk) (budget : Nat) (path : Path) :
    Except OffsetFault Walk := do
  match ← loadSource files config.maxSourceSize path with
  | .error fault => return ⟨[], budget, [.failed path fault]⟩
  | .ok source =>
    let walk ← expandFrom config top path splice source.text.toList 0 0 budget
    return walk.prepend [] [.opened path source]

/-- Expand a file whose includes are nested at most `depth` deep. -/
def expandFile (files : Files) (config : ShaderConfig) (top : Path) :
    (depth : Nat) → (budget : Nat) → Path → Except OffsetFault Walk
  | 0 => readWith files config top fun budget _ => .ok ⟨[], budget, []⟩
  | depth + 1 => readWith files config top (expandFile files config top depth)

/-- Expand the top-level file with a budget, before any cut. -/
def walkFile (files : Files) (config : ShaderConfig) (path : Path) (budget : Int) :
    Except OffsetFault Walk :=
  match budget.toNat with
  | 0 => .ok ⟨[], 0, [.refused]⟩
  | budget + 1 => expandFile files config path budget budget path

/-- The part of a text up to the last boundary within a limit. -/
def cutText (limit : Nat) (text : String) : Except OffsetFault String := do
  let cut ← Text.floorBoundary text.toList limit
  return String.ofList (← Text.sliceTo cut text.toList)

/-- Expand a file with an explicit budget. -/
def expandBounded (files : Files) (config : ShaderConfig) (path : Path) (budget : Int) :
    Except OffsetFault Expansion := do
  let whole := Expansion.ofWalk path (← walkFile files config path budget)
  let text ← cutText config.maxSourceSize whole.text
  return { whole.capped path config.maxSourceSize with text }

/-- Expand a file with the configured budget. -/
def expand (files : Files) (config : ShaderConfig) (path : Path) : Except OffsetFault Expansion :=
  expandBounded files config path config.includeBudget

/-- Expand a file into a buffer, which replaces the content. -/
def expandInto (files : Files) (config : ShaderConfig) (path : Path) (buffer : SourceBuffer) :
    Except OffsetFault (SourceBuffer × Expansion) := do
  let expansion ← expand files config path
  let text ← cutText buffer.capacity expansion.text
  let message :=
    s!"expanded source of \"{path.text}\" exceeds the {buffer.capacity} byte buffer; truncated"
  return ({ buffer with text }, { expansion.cut path buffer.capacity message with text })

end Operations

section Rounds

variable (config : ShaderConfig) (top path : Path)
  (splice : Nat → Path → Except OffsetFault Walk) (budget : Nat) {front kept rest : List Char}

/-- Where no directive follows, what was kept back is put out. -/
theorem expandFrom_last
    (hrest : directiveFrom 0 (lineStartsBehind true (front ++ kept)) rest = none) :
    expandFrom config top path splice (front ++ (kept ++ rest)) (Text.extent front)
        (Text.extent (front ++ kept)) budget =
      .ok ⟨kept ++ rest, budget, []⟩ := by
  have hsource : front ++ (kept ++ rest) = front ++ kept ++ rest := (List.append_assoc _ _ _).symm
  have hnext : nextDirective (front ++ (kept ++ rest)) (Text.extent (front ++ kept)) =
      .ok none := by
    rw [hsource, nextDirective_eq, hrest]
    rfl
  rw [expandFrom, hnext, ok_bind]
  dsimp only
  rw [Text.sliceFrom_eq_ok_iff.mpr ⟨front, rfl, rfl⟩]
  rfl

/-- The marker behind an expanded file ends its line unless the text ends there. -/
theorem lineMarker_eq (line : Nat) (before rest : List Char) :
    s!"\n#line {line}".toList ++
        (if Text.extent before < Text.extent (before ++ rest) then ['\n'] else []) =
      lineMarker line rest := by
  unfold lineMarker
  cases rest with
  | nil => simp
  | cons c rest =>
    have hlonger : Text.extent before < Text.extent (before ++ c :: rest) := by
      have hpositive := c.utf8Size_pos
      rw [Text.extent_append, Text.extent_cons]
      omega
    rw [if_pos hlonger]
    rfl

/-- What is done with the next directive. -/
theorem expandFrom_directive {before onLine : List Char} (honLine : '\n' ∉ onLine)
    (hrest : AtLineEnd rest)
    (hfound : directiveFrom 0 (lineStartsBehind true (front ++ kept))
      (before ++ (includeMark ++ (onLine ++ rest))) = some before.length) :
    let line := (front ++ (kept ++ before)).count '\n' + 1
    let source := front ++ (kept ++ (before ++ (includeMark ++ (onLine ++ rest))))
    let lineEnd := Text.extent (front ++ (kept ++ (before ++ (includeMark ++ onLine))))
    expandFrom config top path splice source (Text.extent front) (Text.extent (front ++ kept))
        budget =
      match includeName? onLine with
      | none => do
        let walk ← expandFrom config top path splice source (Text.extent front) lineEnd budget
        return walk.prepend [] [.malformed path line]
      | some name =>
        if (config.path name).same path || (config.path name).same top then
          .ok ⟨kept ++ (before ++ (includeMark ++ (onLine ++ rest))), budget,
            [.selfIncluded path line name]⟩
        else match budget with
          | 0 => do
            let walk ← expandFrom config top path splice source (Text.extent front) lineEnd 0
            return walk.prepend [] [.refused]
          | budget + 1 => do
            let file ← splice budget (config.path name)
            let walk ← expandFrom config top path splice source lineEnd lineEnd file.budget
            return walk.prepend (kept ++ before ++ file.text ++ lineMarker line rest)
              file.events := by
  intro line source lineEnd
  have hnext : nextDirective source (Text.extent (front ++ kept)) =
      .ok (some (Text.extent (front ++ (kept ++ before)))) := by
    have hsearch := nextDirective_eq (front ++ kept) (before ++ (includeMark ++ (onLine ++ rest)))
    rw [hfound] at hsearch
    simpa only [Option.map_some, List.take_left, List.append_assoc] using hsearch
  have hread : readDirective source (Text.extent (front ++ (kept ++ before))) =
      .ok ⟨lineEnd, line, includeName? onLine⟩ := by
    have hdirective := @readDirective_eq (front ++ (kept ++ before)) onLine rest honLine hrest
    simpa only [List.append_assoc] using hdirective
  have hprogress : Text.extent (front ++ kept) < lineEnd ∧ lineEnd ≤ Text.extent source := by
    have hmark : 0 < Text.extent includeMark := by decide
    simp only [lineEnd, source, Text.extent_append]
    omega
  have hkept : Text.sliceFrom (Text.extent front) source =
      .ok (kept ++ (before ++ (includeMark ++ (onLine ++ rest)))) :=
    Text.sliceFrom_eq_ok_iff.mpr ⟨front, rfl, rfl⟩
  have hbefore : Text.slice (Text.extent front) (Text.extent (front ++ (kept ++ before))) source =
      .ok (kept ++ before) :=
    Text.slice_eq_ok_iff.mpr ⟨front, includeMark ++ (onLine ++ rest),
      by simp only [source, List.append_assoc], rfl, (Text.extent_append _ _).symm⟩
  have hmarker : s!"\n#line {line}".toList ++
      (if lineEnd < Text.extent source then ['\n'] else []) = lineMarker line rest := by
    have hsource : source = front ++ (kept ++ (before ++ (includeMark ++ onLine))) ++ rest := by
      simp only [source, List.append_assoc]
    rw [hsource]
    exact lineMarker_eq line _ rest
  rw [expandFrom, hnext, ok_bind]
  dsimp only
  rw [hread, ok_bind]
  dsimp only
  rw [dif_pos hprogress, hkept, hmarker, hbefore]
  rfl

end Rounds

section Runs

variable (config : ShaderConfig) (top path : Path) (splice : Nat → Path → Walk)
  (checkedSplice : Nat → Path → Except OffsetFault Walk)

/-- Whether a text that ends a source is expanded by offsets as it is without them, wherever no
directive is missed in front of it. -/
def AgreesOn (rest : List Char) : Prop :=
  ∀ front kept budget, lineStartsBehind true (front ++ kept) = true ∨ AtLineEnd rest →
    expandFrom config top path checkedSplice (front ++ (kept ++ rest)) (Text.extent front)
        (Text.extent (front ++ kept)) budget =
      ((expandText config top path splice ((front ++ kept).count '\n' + 1) budget rest).prepend
        kept []).settled

variable {config top path splice checkedSplice}

namespace AgreesOn

variable {before onLine rest : List Char}
  (h : AgreesOn config top path splice checkedSplice rest) (honLine : '\n' ∉ onLine)
  (hrest : AtLineEnd rest) (front kept : List Char) (budget : Nat)

include h honLine hrest

omit h hrest in
/-- The feeds in front of a directive are those in front of what follows its line. -/
theorem count_line : (front ++ (kept ++ (before ++ (includeMark ++ onLine)))).count '\n' =
    (front ++ (kept ++ before)).count '\n' := by
  simp only [List.count_append, List.count_eq_zero.mpr honLine,
    List.count_eq_zero.mpr feed_not_mem_includeMark]
  omega

/-- A directive that stays is kept back together with what stands in front of it. -/
theorem stay :
    expandFrom config top path checkedSplice
        (front ++ (kept ++ (before ++ (includeMark ++ (onLine ++ rest))))) (Text.extent front)
        (Text.extent (front ++ (kept ++ (before ++ (includeMark ++ onLine))))) budget =
      ((expandText config top path splice ((front ++ (kept ++ before)).count '\n' + 1) budget
        rest).prepend (kept ++ (before ++ (includeMark ++ onLine))) []).settled := by
  have hbehind := h front (kept ++ (before ++ (includeMark ++ onLine))) budget (.inr hrest)
  rw [count_line honLine] at hbehind
  simpa only [List.append_assoc] using hbehind

/-- Behind a directive that was replaced nothing is kept back. -/
theorem move :
    expandFrom config top path checkedSplice
        (front ++ (kept ++ (before ++ (includeMark ++ (onLine ++ rest)))))
        (Text.extent (front ++ (kept ++ (before ++ (includeMark ++ onLine)))))
        (Text.extent (front ++ (kept ++ (before ++ (includeMark ++ onLine))))) budget =
      (expandText config top path splice ((front ++ (kept ++ before)).count '\n' + 1) budget
        rest).settled := by
  have hbehind := h (front ++ (kept ++ (before ++ (includeMark ++ onLine)))) [] budget (.inr hrest)
  rw [List.append_nil, count_line honLine, Walk.prepend_nil] at hbehind
  simpa only [List.append_assoc, List.nil_append] using hbehind

/-- If the texts behind the next directive agree, so does the text that begins in front of it. -/
theorem directive
    (hsplice : ∀ budget target, checkedSplice budget target = (splice budget target).settled)
    (hfound : directive? (before ++ (includeMark ++ (onLine ++ rest))) = some before.length) :
    AgreesOn config top path splice checkedSplice
      (before ++ (includeMark ++ (onLine ++ rest))) := by
  intro front kept budget hstart
  have hsearch := (directiveFrom_eq_directive? hstart).trans hfound
  have hline : (front ++ kept).count '\n' + 1 + before.count '\n' =
      (front ++ (kept ++ before)).count '\n' + 1 := by
    simp only [List.count_append]
    omega
  have hround := expandFrom_directive config top path checkedSplice budget honLine hrest hsearch
  -- both sides now do the same with the directive, and go on behind its line
  rw [hround, expandText_found config top path splice _ _ honLine hrest hfound, hline]
  cases includeName? onLine with
  | none =>
    dsimp only
    rw [h.stay honLine hrest, ← Walk.settled_prepend rfl, Walk.prepend_prepend,
      Walk.prepend_prepend]
    rfl
  | some name =>
    dsimp only
    split
    · rfl
    · cases budget with
      | zero =>
        dsimp only
        rw [h.stay honLine hrest, ← Walk.settled_prepend rfl, Walk.prepend_prepend,
          Walk.prepend_prepend]
        rfl
      | succ budget =>
        dsimp only
        rw [Walk.prepend_prepend, List.nil_append, hsplice]
        -- an overflow in the included file ends the expansion at once
        cases hover : (splice budget (config.path name)).events.any IncludeEvent.isOverflow with
        | true =>
          rw [Walk.settled_prepend_overflow hover, Walk.settled, if_pos hover]
          rfl
        | false =>
          rw [Walk.settled_prepend hover, Walk.settled, if_neg (by simp [hover]), ok_bind,
            h.move honLine hrest]
          simp only [List.append_assoc]

end AgreesOn

/-- Every text is expanded by offsets as it is without them, if the included files are. -/
theorem agreesOn
    (hsplice : ∀ budget target, checkedSplice budget target = (splice budget target).settled)
    (rest : List Char) : AgreesOn config top path splice checkedSplice rest := by
  induction hlength : rest.length using Nat.strong_induction_on generalizing rest with
  | _ length ih =>
    subst hlength
    cases hfound : directive? rest with
    | none =>
      intro front kept budget hstart
      rw [expandFrom_last config top path checkedSplice budget
        ((directiveFrom_eq_directive? hstart).trans hfound), expandText_eq, hfound]
      rfl
    | some count =>
      obtain ⟨before, onLine, rest, rfl, rfl, honLine, hrest⟩ := exists_line_of_directive? hfound
      have hshorter : rest.length < (before ++ (includeMark ++ (onLine ++ rest))).length := by
        have hmark : 0 < includeMark.length := by decide
        simp only [List.length_append]
        omega
      exact (ih _ hshorter rest rfl).directive honLine hrest hsplice hfound

end Runs

section Files

variable (files : Files) (config : ShaderConfig) (top : Path)

section Bytes

variable (content : ByteArray) (cap : Nat)

/-- One byte more than the cap tells whether a file is larger than the cap. -/
theorem size_extract_succ_le : (content.extract 0 (cap + 1)).size ≤ cap ↔ content.size ≤ cap := by
  rw [ByteArray.size_extract]
  omega

/-- Dropping that byte again leaves what is kept of the file. -/
theorem extract_succ_extract :
    (if decide (content.size ≤ cap) then content.extract 0 (cap + 1)
      else (content.extract 0 (cap + 1)).extract 0 cap) =
      if decide (content.size ≤ cap) then content else content.extract 0 cap := by
  split
  · rename_i hfits
    rw [decide_eq_true_eq] at hfits
    rw [← ByteArray.extract_zero_size (b := content), ByteArray.extract_extract]
    congr 1
    omega
  · rw [ByteArray.extract_extract]
    congr 1
    omega

end Bytes

/-- A file is read as it is without the check, unless the cap leaves no room for one more byte. -/
theorem loadSource_eq (cap : Nat) (path : Path) :
    loadSource files cap path = settledLoad (Shaderbox.loadSource files cap path) := by
  unfold loadSource Shaderbox.loadSource Text.checkedSum
  cases files path with
  | absent => rfl
  | unreadable =>
    dsimp only
    rcases Nat.lt_or_ge sizeMax (cap + 1) with hroom | hroom
    · rw [if_neg (Nat.not_le.mpr hroom), if_pos hroom]
      rfl
    · rw [if_pos hroom, if_neg (Nat.not_lt.mpr hroom)]
      rfl
  | file content =>
    dsimp only
    rcases Nat.lt_or_ge sizeMax (cap + 1) with hroom | hroom
    · rw [if_neg (Nat.not_le.mpr hroom), if_pos hroom]
      rfl
    · rw [if_pos hroom, if_neg (Nat.not_lt.mpr hroom), ok_bind,
        decide_eq_decide.mpr (size_extract_succ_le content cap), extract_succ_extract]
      rfl

/-- Reading a file and expanding its text goes as it does without offsets, if the included files
do. -/
theorem readWith_eq {splice : Nat → Path → Walk}
    {checkedSplice : Nat → Path → Except OffsetFault Walk}
    (hsplice : ∀ budget target, checkedSplice budget target = (splice budget target).settled)
    (budget : Nat) (path : Path) :
    readWith files config top checkedSplice budget path =
      (Shaderbox.readWith files config top splice budget path).settled := by
  unfold readWith Shaderbox.readWith
  rw [loadSource_eq]
  cases Shaderbox.loadSource files config.maxSourceSize path with
  | error fault => cases fault <;> rfl
  | ok source =>
    have htext : expandFrom config top path checkedSplice source.text.toList 0 0 budget =
        (expandText config top path splice 1 budget source.text.toList).settled :=
      agreesOn hsplice source.text.toList [] [] budget (.inl rfl)
    rw [Walk.settled_prepend rfl, ← htext]
    rfl

theorem expandFile_eq (depth budget : Nat) (path : Path) :
    expandFile files config top depth budget path =
      (Shaderbox.expandFile files config top depth budget path).settled := by
  induction depth generalizing budget path with
  | zero =>
    have hnone (budget : Nat) (target : Path) :
        .ok ⟨[], budget, []⟩ = (Walk.mk [] budget []).settled := rfl
    exact readWith_eq files config top hnone budget path
  | succ depth ih => exact readWith_eq files config top ih budget path

theorem walkFile_eq (budget : Int) :
    walkFile files config top budget = (Shaderbox.walkFile files config top budget).settled := by
  unfold walkFile Shaderbox.walkFile
  cases budget.toNat with
  | zero => rfl
  | succ budget => exact expandFile_eq files config top budget budget top

theorem cutText_eq (limit : Nat) (text : String) :
    cutText limit text = .ok (Shaderbox.cutText limit text) := by
  have hslice : Text.sliceTo (Text.extent (Text.prefixWithin limit text.toList)) text.toList =
      .ok (Text.prefixWithin limit text.toList) :=
    Text.sliceTo_eq_ok_iff.mpr ⟨Text.prefixWithin_begins _ _, rfl⟩
  unfold cutText Shaderbox.cutText
  rw [Text.floorBoundary_eq, ok_bind, hslice]
  rfl

end Files

section Cuts

/-- The text of a cut expansion is the cut of its text, whether or not it fits. -/
theorem cut_with_text (path : Path) (limit : Nat) (message : String) (expansion : Expansion) :
    { expansion.cut path limit message with text := Shaderbox.cutText limit expansion.text } =
      expansion.cut path limit message := by
  have htext := (expansion.isLongestWithin_cut path limit message).unique (.of_cutText _ _)
  rw [← htext]

theorem text_replace (buffer : SourceBuffer) (text : String) :
    buffer.replace text = { buffer with text := Shaderbox.cutText buffer.capacity text } := by
  have htext := (buffer.isLongestWithin_replace text).unique (.of_cutText _ _)
  rw [← htext]
  rfl

variable (files : Files) (config : ShaderConfig) (path : Path)

theorem expandBounded_eq (budget : Int) :
    expandBounded files config path budget =
      (Shaderbox.expandBounded files config path budget).mapError fun _ => .sum := by
  unfold expandBounded Shaderbox.expandBounded
  rw [walkFile_eq, Walk.settled]
  dsimp only
  split
  · rfl
  · rw [ok_bind, cutText_eq, ok_bind, Expansion.capped, cut_with_text]
    rfl

theorem expandInto_eq (buffer : SourceBuffer) :
    expandInto files config path buffer =
      (Shaderbox.expandInto files config path buffer).mapError fun _ => .sum := by
  unfold expandInto Shaderbox.expandInto expand Shaderbox.expand
  rw [expandBounded_eq]
  cases Shaderbox.expandBounded files config path config.includeBudget with
  | error reason => rfl
  | ok expansion =>
    change (do let text ← cutText buffer.capacity expansion.text; _) = Except.ok _
    rw [cutText_eq, ok_bind, cut_with_text, text_replace]
    rfl

end Cuts

section Overflow

variable {files : Files} {config : ShaderConfig} {top path : Path}

/-- Whether one more byte than the cap can be asked for, should the file be opened. -/
def HasRoom (files : Files) (cap : Nat) (path : Path) : Prop :=
  cap < sizeMax ∨ files path = .absent

theorem loadSource_overflows_iff {cap : Nat} :
    Shaderbox.loadSource files cap path = .error .capOverflow ↔ ¬ HasRoom files cap path := by
  unfold HasRoom
  rcases Nat.lt_or_ge cap sizeMax with hcap | hcap
  · exact iff_of_false (loadSource_ne_capOverflow hcap path) fun h => h (.inl hcap)
  · have hroom : sizeMax < cap + 1 := Nat.lt_succ_of_le hcap
    unfold Shaderbox.loadSource
    cases hfile : files path with
    | absent => exact iff_of_false nofun fun h => h (.inr rfl)
    | unreadable =>
      dsimp only
      rw [if_pos hroom]
      exact iff_of_true rfl (not_or.mpr ⟨Nat.not_lt.mpr hcap, nofun⟩)
    | file content =>
      dsimp only
      rw [if_pos hroom]
      exact iff_of_true rfl (not_or.mpr ⟨Nat.not_lt.mpr hcap, nofun⟩)

/-- A file that is not read leaves only that behind. -/
theorem expandFile_of_fault {fault : LoadFault}
    (h : Shaderbox.loadSource files config.maxSourceSize path = .error fault) (depth budget : Nat) :
    Shaderbox.expandFile files config top depth budget path =
      ⟨[], budget, [.failed path fault]⟩ := by
  cases depth with
  | zero => rw [Shaderbox.expandFile, Shaderbox.readWith, h]
  | succ depth => rw [Shaderbox.expandFile, Shaderbox.readWith, h]

/-- An expansion asks for one byte too many exactly if the top-level file is opened with the
greatest cap. -/
theorem walkFile_overflows_iff {budget : Int} :
    (Shaderbox.walkFile files config top budget).events.any IncludeEvent.isOverflow = true ↔
      ¬ (budget ≤ 0 ∨ HasRoom files config.maxSourceSize top) := by
  by_cases hroom : HasRoom files config.maxSourceSize top
  · refine iff_of_false (fun hover => ?_) fun h => h (.inr hroom)
    rcases hroom with hcap | habsent
    · rw [walkFile_not_overflow hcap] at hover
      contradiction
    · have hload : Shaderbox.loadSource files config.maxSourceSize top = .error .notFound := by
        rw [Shaderbox.loadSource, habsent]
      unfold Shaderbox.walkFile at hover
      split at hover
      · contradiction
      · rw [expandFile_of_fault hload] at hover
        contradiction
  · unfold Shaderbox.walkFile
    split
    · exact iff_of_false Bool.false_ne_true fun h => h (.inl (by omega))
    · rw [expandFile_of_fault (loadSource_overflows_iff.mpr hroom)]
      exact iff_of_true rfl (not_or.mpr ⟨by omega, hroom⟩)

end Overflow

section Results

/-- Whether a computation with checked offsets comes to what it comes to without the checks, and
returns exactly under a condition. Where it does not return, a sum left its range. -/
structure ReturnsIff {α : Type} (condition : Prop) (unchecked : Except Abort α)
    (checked : Except OffsetFault α) : Prop where
  agrees : checked = unchecked.mapError fun _ => .sum
  returns : (∃ result, checked = .ok result) ↔ condition

variable (files : Files) (config : ShaderConfig) (path : Path)

theorem loadSource_returns_iff (cap : Nat) :
    (∃ outcome, loadSource files cap path = .ok outcome) ↔ HasRoom files cap path := by
  rw [← not_iff_not, ← loadSource_overflows_iff, loadSource_eq]
  cases Shaderbox.loadSource files cap path with
  | error fault => cases fault <;> simp [settledLoad]
  | ok source => simp [settledLoad]

theorem expandBounded_returnsIff (budget : Int) :
    ReturnsIff (budget ≤ 0 ∨ HasRoom files config.maxSourceSize path)
      (Shaderbox.expandBounded files config path budget)
      (expandBounded files config path budget) := by
  refine ⟨expandBounded_eq files config path budget, ?_⟩
  rw [← not_iff_not, ← walkFile_overflows_iff, expandBounded_eq, Shaderbox.expandBounded]
  split
  · rename_i hover
    exact iff_of_true (by simp [Except.mapError]) hover
  · rename_i hover
    exact iff_of_false (by simp [Except.mapError]) hover

theorem expandInto_returnsIff (buffer : SourceBuffer) :
    ReturnsIff (config.includeBudget ≤ 0 ∨ HasRoom files config.maxSourceSize path)
      (Shaderbox.expandInto files config path buffer) (expandInto files config path buffer) := by
  refine ⟨expandInto_eq files config path buffer, ?_⟩
  rw [← (expandBounded_returnsIff files config path config.includeBudget).returns, expandInto,
    expand]
  cases expandBounded files config path config.includeBudget with
  | error fault => simp
  | ok expansion => simp [cutText_eq]

/-- Reading and expanding files returns for every file tree, path, budget and buffer, and for every
cap but the greatest. With the greatest cap it does not return once a file was opened, as there is
no byte more to ask for. -/
theorem expansion_returns_iff :
    (∀ cap, loadSource files cap path = settledLoad (Shaderbox.loadSource files cap path) ∧
      ((∃ outcome, loadSource files cap path = .ok outcome) ↔ HasRoom files cap path)) ∧
    (∀ budget, ReturnsIff (budget ≤ 0 ∨ HasRoom files config.maxSourceSize path)
      (Shaderbox.expandBounded files config path budget)
      (expandBounded files config path budget)) ∧
    ReturnsIff (config.includeBudget ≤ 0 ∨ HasRoom files config.maxSourceSize path)
      (Shaderbox.expand files config path) (expand files config path) ∧
    ∀ buffer, ReturnsIff (config.includeBudget ≤ 0 ∨ HasRoom files config.maxSourceSize path)
      (Shaderbox.expandInto files config path buffer) (expandInto files config path buffer) :=
  ⟨fun cap => ⟨loadSource_eq files cap path, loadSource_returns_iff files path cap⟩,
    expandBounded_returnsIff files config path,
    expandBounded_returnsIff files config path config.includeBudget,
    expandInto_returnsIff files config path⟩

example : loadSource (fun _ => .file "x".toUTF8) sizeMax ⟨"a.glsl"⟩ = .error .sum := rfl

end Results

end Checked

end Shaderbox
