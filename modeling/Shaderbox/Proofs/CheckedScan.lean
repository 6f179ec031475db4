import Shaderbox.Proofs.ByteOffsets
import Shaderbox.Proofs.WalkLines

/-!
# Directives found by offsets

The search for directives works with offsets in bytes: where the mark of a directive occurs next,
whether the byte in front of it ends a line, where its own line ends, and what stands in between.
Each of these is checked here, and finds what the search over characters finds. A sum of offsets has
to stay within the text, which is more than to stay within the sizes that can be counted.

Between two occurrences of the mark no line begins with it. So it makes no difference whether every
position is looked at, as the search over characters does, or only the occurrences.
-/

namespace Shaderbox

/-- Whether a line starts behind a text, given whether one starts in front of it. -/
def lineStartsBehind (lineStart : Bool) (text : List Char) : Bool :=
  text.foldl (fun _ c => c == '\n') lineStart

theorem lineStartsBehind_cons (lineStart : Bool) (c : Char) (rest : List Char) :
    lineStartsBehind lineStart (c :: rest) = lineStartsBehind (c == '\n') rest := rfl

theorem lineStartsBehind_concat (lineStart : Bool) (text : List Char) (c : Char) :
    lineStartsBehind lineStart (text ++ [c]) = (c == '\n') := by
  rw [lineStartsBehind, List.foldl_append]
  rfl

theorem lineStartsBehind_append (lineStart : Bool) (front back : List Char) :
    lineStartsBehind lineStart (front ++ back) =
      lineStartsBehind (lineStartsBehind lineStart front) back :=
  List.foldl_append

/-- Whether a text continues at the end of a line. -/
def AtLineEnd (rest : List Char) : Prop :=
  rest = [] ∨ ∃ behind, rest = '\n' :: behind

/-- At the end of a line no directive starts, so the search need not know whether a line starts
there. -/
theorem directiveFrom_eq_directive? {lineStart : Bool} {rest : List Char}
    (h : lineStart = true ∨ AtLineEnd rest) : directiveFrom 0 lineStart rest = directive? rest := by
  rcases h with rfl | rfl | ⟨behind, rfl⟩
  · rfl
  · rfl
  · have hfeed : includeMark.isPrefixOf ('\n' :: behind) = false := rfl
    rw [directive?, directiveFrom, directiveFrom, hfeed, Bool.and_false, Bool.and_false]

/-- A directive that is found begins with the mark. -/
theorem exists_mark_of_directiveFrom {offset count : Nat} {lineStart : Bool} {source : List Char}
    (h : directiveFrom offset lineStart source = some count) :
    ∃ before behind,
      source = before ++ (includeMark ++ behind) ∧ offset + before.length = count := by
  induction source generalizing offset lineStart with
  | nil => contradiction
  | cons c rest ih =>
    rw [directiveFrom] at h
    split at h
    · rename_i hmark
      obtain ⟨behind, hbehind⟩ := List.isPrefixOf_iff_prefix.mp (Bool.and_eq_true_iff.mp hmark).2
      exact ⟨[], behind, hbehind.symm, Option.some.inj h⟩
    · obtain ⟨before, behind, rfl, rfl⟩ := ih h
      exact ⟨c :: before, behind, rfl, by rw [List.length_cons]; omega⟩

/-- A text with a directive is what stands in front of it, its mark, the rest of its line, and what
follows from the end of that line on. -/
theorem exists_line_of_directive? {count : Nat} {source : List Char}
    (h : directive? source = some count) :
    ∃ before onLine rest, source = before ++ (includeMark ++ (onLine ++ rest)) ∧
      before.length = count ∧ '\n' ∉ onLine ∧ AtLineEnd rest := by
  obtain ⟨before, behind, rfl, hcount⟩ := exists_mark_of_directiveFrom h
  refine ⟨before, behind.takeWhile (· ≠ '\n'), behind.dropWhile (· ≠ '\n'), ?_, by omega, ?_, ?_⟩
  · rw [List.takeWhile_append_dropWhile]
  · intro hfeed
    simpa using List.mem_takeWhile_imp hfeed
  · cases hrest : behind.dropWhile (· ≠ '\n') with
    | nil => exact .inl rfl
    | cons c rest =>
      have hstop := List.head?_dropWhile_not (· ≠ '\n') behind
      rw [hrest] at hstop
      refine .inr ⟨rest, ?_⟩
      simpa using hstop

namespace Checked

section Operations

/-- Whether a line starts at an offset. -/
def startsLine (source : List Char) (start : Nat) : Except OffsetFault Bool :=
  if start = 0 then .ok true
  else do
    let octet ← Text.octetAt source (← Text.checkedDifference start 1)
    return octet == 10

/-- The offset of the next directive at the start of a line, from an offset on. -/
def nextDirective (source : List Char) (scan : Nat) : Except OffsetFault (Option Nat) := do
  match Text.offsetOf? includeMark (← Text.sliceFrom scan source) with
  | none => return none
  | some found =>
    let start ← Text.checkedSum (Text.extent source) scan found
    if ← startsLine source start then return some start
    else
      let next ← Text.checkedSum (Text.extent source) start 1
      if _progress : scan < next ∧ next ≤ Text.extent source then nextDirective source next
      else .error .stuck
  termination_by Text.extent source - scan
  decreasing_by omega

/-- The name in a directive, given what follows the opening quote on its line. -/
def includeName (onLine : List Char) : Except OffsetFault (Option Path) :=
  match Text.offsetOf? ['"'] onLine with
  | none => .ok none
  | some stop => do
    let name ← Text.sliceTo stop onLine
    let path := Path.mk (String.ofList name)
    if name = [] ∨ ShaderConfig.maxIncludeNameSize < Text.extent name then return none
    else return if path.staysInside then some path else none

/-- A directive that was found: where its line ends, which line it is, and what it names. -/
structure Directive where
  lineEnd : Nat
  line : Nat
  name? : Option Path
deriving DecidableEq

/-- The end of the line that an offset lies on. -/
def lineEndFrom (source : List Char) (start : Nat) : Except OffsetFault Nat := do
  match Text.offsetOf? ['\n'] (← Text.sliceFrom start source) with
  | none => return Text.extent source
  | some found => Text.checkedSum (Text.extent source) start found

/-- The number of the line that an offset lies on. -/
def lineAt (source : List Char) (start : Nat) : Except OffsetFault Nat := do
  let before ← Text.sliceTo start source
  Text.checkedSum (Text.extent source) ((before.flatMap String.utf8EncodeChar).count 10) 1

/-- Read the directive at an offset. -/
def readDirective (source : List Char) (start : Nat) : Except OffsetFault Directive := do
  let lineEnd ← lineEndFrom source start
  let line ← lineAt source start
  let nameStart ← Text.checkedSum (Text.extent source) start (Text.extent includeMark)
  let onLine ← Text.slice nameStart lineEnd source
  return ⟨lineEnd, line, ← includeName onLine⟩

end Operations

section Searching

theorem startsLine_eq (front back : List Char) :
    startsLine (front ++ back) (Text.extent front) = .ok (lineStartsBehind true front) := by
  rcases List.eq_nil_or_concat front with rfl | ⟨front, c, rfl⟩
  · rfl
  obtain ⟨octet, hread, hfeed⟩ := Text.octetAt_before front c back
  have hpositive := c.utf8Size_pos
  have hsize : Text.extent (front ++ [c]) = Text.extent front + c.utf8Size := by simp
  rw [List.concat_eq_append, hsize, lineStartsBehind_concat, startsLine, if_neg (by omega),
    Text.checkedDifference, if_pos (by omega), ok_bind, List.append_assoc, List.singleton_append,
    hread, ok_bind, beq_eq_beq.mpr hfeed]
  rfl

/-- Where the mark occurs nowhere there is no directive. -/
theorem directiveFrom_of_offsetOf?_eq_none {rest : List Char}
    (h : Text.offsetOf? includeMark rest = none) (offset : Nat) (lineStart : Bool) :
    directiveFrom offset lineStart rest = none := by
  induction rest generalizing offset lineStart with
  | nil => rfl
  | cons c rest ih =>
    rw [Text.offsetOf?] at h
    split at h
    · contradiction
    · rename_i hmark
      rw [Option.map_eq_none_iff] at h
      rw [directiveFrom, if_neg (by simp [hmark]), ih h]

/-- In front of the first occurrence of the mark there is no directive. -/
theorem directiveFrom_of_offsetOf?_eq_some {rest : List Char} {found : Nat}
    (h : Text.offsetOf? includeMark rest = some found) :
    ∃ before behind, rest = before ++ (includeMark ++ behind) ∧ Text.extent before = found ∧
      ∀ offset lineStart, directiveFrom offset lineStart rest =
        directiveFrom (offset + before.length) (lineStartsBehind lineStart before)
          (includeMark ++ behind) := by
  induction rest generalizing found with
  | nil => contradiction
  | cons c rest ih =>
    rw [Text.offsetOf?] at h
    split at h
    · rename_i hmark
      obtain ⟨behind, hbehind⟩ := List.isPrefixOf_iff_prefix.mp hmark
      obtain rfl := Option.some.inj h
      refine ⟨[], behind, hbehind.symm, rfl, fun offset lineStart => ?_⟩
      rw [hbehind]
      rfl
    · rename_i hmark
      obtain ⟨inner, hinner, rfl⟩ := Option.map_eq_some_iff.mp h
      obtain ⟨before, behind, rfl, rfl, hfrom⟩ := ih hinner
      refine ⟨c :: before, behind, rfl, rfl, fun offset lineStart => ?_⟩
      rw [directiveFrom, if_neg (by simp [hmark]), hfrom, lineStartsBehind_cons, List.length_cons,
        Nat.add_right_comm]
      rfl

/-- Where a line starts, the mark begins a directive. -/
theorem directiveFrom_start_mark (offset : Nat) (behind : List Char) :
    directiveFrom offset true (includeMark ++ behind) = some offset := by
  have hmark : includeMark.isPrefixOf (includeMark ++ behind) = true :=
    List.isPrefixOf_iff_prefix.mpr (List.prefix_append _ _)
  exact if_pos hmark

/-- Where no line starts, the mark begins no directive, and the search goes on behind its first
character. -/
theorem directiveFrom_mid_mark (offset : Nat) (behind : List Char) :
    directiveFrom offset false (includeMark ++ behind) =
      (directiveFrom 0 false (includeMark.tail ++ behind)).map (· + (offset + 1)) := by
  have hstep : directiveFrom offset false (includeMark ++ behind) =
      directiveFrom (offset + 1) false (includeMark.tail ++ behind) := rfl
  have hshift := directiveFrom_add 0 (offset + 1) false (includeMark.tail ++ behind)
  rwa [Nat.zero_add, ← hstep] at hshift

section Steps

variable (front : List Char) {before behind : List Char}
  (hfound : Text.offsetOf? includeMark (before ++ (includeMark ++ behind)) =
    some (Text.extent before))

include hfound

/-- The search ends at an occurrence of the mark that starts a line. -/
theorem nextDirective_found (hline : lineStartsBehind true (front ++ before) = true) :
    nextDirective (front ++ (before ++ (includeMark ++ behind))) (Text.extent front) =
      .ok (some (Text.extent (front ++ before))) := by
  rw [nextDirective, Text.sliceFrom_eq_ok_iff.mpr ⟨front, rfl, rfl⟩, ok_bind, hfound]
  dsimp only
  rw [Text.checkedSum_of_le (by simp), ok_bind, ← Text.extent_append, ← List.append_assoc,
    startsLine_eq, hline]
  rfl

/-- At any other occurrence it goes on behind the first character of the mark. -/
theorem nextDirective_skip (hline : lineStartsBehind true (front ++ before) = false) :
    nextDirective (front ++ (before ++ (includeMark ++ behind))) (Text.extent front) =
      nextDirective (front ++ before ++ ['#'] ++ (includeMark.tail ++ behind))
        (Text.extent (front ++ before ++ ['#'])) := by
  have hsource : front ++ before ++ (includeMark ++ behind) =
      front ++ before ++ ['#'] ++ (includeMark.tail ++ behind) := by
    rw [List.append_assoc _ ['#']]
    rfl
  have hnext : Text.extent (front ++ before ++ ['#']) = Text.extent (front ++ before) + 1 :=
    Text.extent_append _ ['#']
  have hfits : Text.extent (front ++ before) + 1 ≤
      Text.extent (front ++ before ++ (includeMark ++ behind)) := by
    rw [hsource, Text.extent_append (front ++ before ++ ['#']), hnext]
    exact Nat.le_add_right _ _
  have hprogress : Text.extent front < Text.extent (front ++ before) + 1 := by
    rw [Text.extent_append]
    omega
  rw [nextDirective, Text.sliceFrom_eq_ok_iff.mpr ⟨front, rfl, rfl⟩, ok_bind, hfound]
  dsimp only
  rw [Text.checkedSum_of_le (by simp), ok_bind, ← Text.extent_append, ← List.append_assoc,
    startsLine_eq, hline, ok_bind, if_neg Bool.false_ne_true, Text.checkedSum_of_le hfits, ok_bind,
    dif_pos ⟨hprogress, hfits⟩, hsource, hnext]

end Steps

/-- The search by offsets finds what the search over characters finds. -/
theorem nextDirective_eq (front rest : List Char) :
    nextDirective (front ++ rest) (Text.extent front) =
      .ok ((directiveFrom 0 (lineStartsBehind true front) rest).map fun count =>
        Text.extent (front ++ rest.take count)) := by
  induction hlength : rest.length using Nat.strong_induction_on generalizing front rest with
  | _ length ih =>
    subst hlength
    cases hfound : Text.offsetOf? includeMark rest with
    | none =>
      rw [nextDirective, Text.sliceFrom_eq_ok_iff.mpr ⟨front, rfl, rfl⟩, ok_bind, hfound,
        directiveFrom_of_offsetOf?_eq_none hfound]
      rfl
    | some found =>
      obtain ⟨before, behind, rfl, rfl, hfrom⟩ := directiveFrom_of_offsetOf?_eq_some hfound
      rw [hfrom, ← lineStartsBehind_append]
      cases hline : lineStartsBehind true (front ++ before) with
      | true =>
        rw [nextDirective_found front hfound hline, directiveFrom_start_mark, Option.map_some,
          Nat.zero_add, List.take_left]
      | false =>
        have hshorter : (includeMark.tail ++ behind).length <
            (before ++ (includeMark ++ behind)).length := by
          have hmark : 0 < includeMark.length := by decide
          simp only [List.length_append, List.length_tail]
          omega
        rw [nextDirective_skip front hfound hline, ih _ hshorter _ _ rfl, lineStartsBehind_concat,
          directiveFrom_mid_mark, Option.map_map]
        refine congrArg (fun offset => Except.ok (Option.map offset _)) (funext fun count => ?_)
        have htake : (before ++ (includeMark ++ behind)).take (count + (0 + before.length + 1)) =
            before ++ '#' :: (includeMark.tail ++ behind).take count := by
          rw [show count + (0 + before.length + 1) = before.length + (count + 1) by omega,
            List.take_length_add_append]
          rfl
        rw [Function.comp_apply, htake]
        simp

end Searching

section Reading

/-- The name found by offsets is the name found among the characters. -/
theorem includeName_eq (onLine : List Char) : includeName onLine = .ok (includeName? onLine) := by
  unfold includeName includeName?
  rw [Text.offsetOf?_singleton]
  by_cases hquote : '"' ∈ onLine
  · have hclosed := length_takeWhile_ne_of_mem hquote
    rw [if_pos hquote]
    dsimp only
    rw [Text.sliceTo_eq_ok_iff.mpr ⟨List.takeWhile_prefix _, rfl⟩, ok_bind, if_neg hclosed]
    split
    · rfl
    · rfl
  · rw [if_neg hquote, takeWhile_eq_self_iff_not_mem.mpr hquote]
    dsimp only
    rw [if_pos rfl]

variable {before onLine rest : List Char} (honLine : '\n' ∉ onLine) (hrest : AtLineEnd rest)

include honLine hrest

/-- A directive ends where its line ends. -/
theorem lineEndFrom_eq :
    lineEndFrom (before ++ (includeMark ++ (onLine ++ rest))) (Text.extent before) =
      .ok (Text.extent (before ++ (includeMark ++ onLine))) := by
  have hline : '\n' ∉ includeMark ++ onLine := by
    rw [List.mem_append, not_or]
    exact ⟨feed_not_mem_includeMark, honLine⟩
  unfold lineEndFrom
  rw [Text.sliceFrom_eq_ok_iff.mpr ⟨before, rfl, rfl⟩, ok_bind, ← List.append_assoc includeMark,
    Text.offsetOf?_singleton]
  rcases hrest with rfl | ⟨behind, rfl⟩
  · rw [List.append_nil, if_neg hline]
    rfl
  · have htake : (includeMark ++ onLine ++ '\n' :: behind).takeWhile (· ≠ '\n') =
        includeMark ++ onLine := by
      rw [takeWhile_append_of_not_mem hline]
      simp
    rw [if_pos (by simp), htake]
    dsimp only
    rw [Text.checkedSum_of_le (by simp), ← Text.extent_append]

omit honLine hrest in
/-- The line of a directive is told by the line feeds in front of it. -/
theorem lineAt_eq :
    lineAt (before ++ (includeMark ++ rest)) (Text.extent before) =
      .ok (before.count '\n' + 1) := by
  have hfits : before.count '\n' + 1 ≤ Text.extent (before ++ (includeMark ++ rest)) := by
    have hfeeds := (List.count_le_length (a := '\n')).trans (Text.length_le_extent before)
    have hmark : 0 < Text.extent includeMark := by decide
    rw [Text.extent_append, Text.extent_append]
    omega
  unfold lineAt
  rw [Text.sliceTo_eq_ok_iff.mpr ⟨List.prefix_append _ _, rfl⟩, ok_bind,
    Text.count_flatMap_utf8EncodeChar, Text.checkedSum_of_le hfits]

/-- What is read of a directive is what stands there. -/
theorem readDirective_eq :
    readDirective (before ++ (includeMark ++ (onLine ++ rest))) (Text.extent before) =
      .ok ⟨Text.extent (before ++ (includeMark ++ onLine)), before.count '\n' + 1,
        includeName? onLine⟩ := by
  have hslice : Text.slice (Text.extent before + Text.extent includeMark)
      (Text.extent (before ++ (includeMark ++ onLine)))
      (before ++ (includeMark ++ (onLine ++ rest))) = .ok onLine :=
    Text.slice_eq_ok_iff.mpr
      ⟨before ++ includeMark, rest, by simp, by simp, by simp [Nat.add_assoc]⟩
  unfold readDirective
  rw [lineEndFrom_eq honLine hrest, ok_bind, lineAt_eq, ok_bind, Text.checkedSum_of_le (by simp),
    ok_bind, hslice, ok_bind, includeName_eq]
  rfl

end Reading

end Checked

end Shaderbox
