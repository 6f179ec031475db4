import Shaderbox.Proofs.LineExpansion
import Mathlib.Data.List.TakeWhile

/-!
# The walk over a file, line by line

The walk looks for the next directive by position and keeps what lies before it. Read on whole
lines it copies plain lines and treats every directive line as the rules for lines say. The laws
here give one equation for each kind of line, where `below` is what follows a line in the text.
-/

namespace Shaderbox

/-- The mark of a directive fits on one line. -/
theorem feed_not_mem_includeMark : '\n' ∉ includeMark := by decide

/-- Positions are counted on from the offset, which only shifts them. -/
theorem directiveFrom_add (offset shift : Nat) (lineStart : Bool) (source : List Char) :
    directiveFrom (offset + shift) lineStart source =
      (directiveFrom offset lineStart source).map (· + shift) := by
  induction source generalizing offset lineStart with
  | nil => rfl
  | cons c rest ih =>
    rw [directiveFrom, directiveFrom]
    split
    · rfl
    · rw [show offset + shift + 1 = offset + 1 + shift by omega, ih]

/-- Away from the start of a line nothing is found before the next line. -/
theorem directiveFrom_mid_line {line : List Char} (hline : '\n' ∉ line) (offset : Nat)
    (rest : List Char) :
    directiveFrom offset false (line ++ '\n' :: rest) =
      directiveFrom (offset + line.length + 1) true rest := by
  induction line generalizing offset with
  | nil => simp [directiveFrom]
  | cons c line ih =>
    simp only [List.mem_cons, not_or] at hline
    have hc : (c == '\n') = false := beq_false_of_ne (Ne.symm hline.1)
    rw [List.cons_append, directiveFrom, Bool.false_and, if_neg (by simp), hc, ih hline.2,
      List.length_cons]
    congr 1
    omega

/-- Away from the start of the last line nothing is found any more. -/
theorem directiveFrom_mid_last_line {line : List Char} (hline : '\n' ∉ line) (offset : Nat) :
    directiveFrom offset false line = none := by
  induction line generalizing offset with
  | nil => rfl
  | cons c line ih =>
    simp only [List.mem_cons, not_or] at hline
    have hc : (c == '\n') = false := beq_false_of_ne (Ne.symm hline.1)
    rw [directiveFrom, Bool.false_and, if_neg (by simp), hc, ih hline.2]

/-- A directive on the first line is found at once. -/
theorem directive?_of_mark {source : List Char} (h : includeMark <+: source) :
    directive? source = some 0 := by
  cases source with
  | nil => exact absurd (List.prefix_nil.mp h) (by decide)
  | cons c rest => rw [directive?, directiveFrom, if_pos (by simpa using h)]

/-- A last line that does not begin like a directive holds none. -/
theorem directive?_last_line {line : List Char} (hline : '\n' ∉ line)
    (hplain : ¬ includeMark <+: line) : directive? line = none := by
  cases line with
  | nil => rfl
  | cons c rest =>
    simp only [List.mem_cons, not_or] at hline
    have hc : (c == '\n') = false := beq_false_of_ne (Ne.symm hline.1)
    rw [directive?, directiveFrom, if_neg (by simpa using hplain), hc]
    exact directiveFrom_mid_last_line hline.2 1

/-- A line that does not begin like a directive is passed over. -/
theorem directive?_plain_line {line : List Char} (hline : '\n' ∉ line)
    (hplain : ¬ includeMark <+: line) (rest : List Char) :
    directive? (line ++ '\n' :: rest) = (directive? rest).map (· + (line.length + 1)) := by
  have hmark : ¬ includeMark <+: line ++ '\n' :: rest := fun h =>
    hplain (startsLine_of_startsText feed_not_mem_includeMark h)
  have hshift := directiveFrom_add 0 (line.length + 1) true rest
  rw [Nat.zero_add] at hshift
  rw [directive?, directive?, ← hshift]
  cases line with
  | nil =>
    rw [List.nil_append] at hmark ⊢
    rw [directiveFrom, if_neg (by simpa using hmark)]
    rfl
  | cons c line =>
    simp only [List.mem_cons, not_or] at hline
    have hc : (c == '\n') = false := beq_false_of_ne (Ne.symm hline.1)
    rw [List.cons_append] at hmark ⊢
    rw [directiveFrom, if_neg (by simpa using hmark), hc, directiveFrom_mid_line hline.2,
      List.length_cons]
    congr 1
    omega

/-- A malformed directive names no file. -/
theorem includeName?_of_malformed {text : List Char} (h : IsMalformed text) :
    includeName? (behindQuote text) = none := by
  unfold includeName?
  dsimp only
  split
  · rfl
  · rename_i hclosed
    split
    · rfl
    · rename_i hname
      rw [not_or, not_lt] at hname
      rw [if_neg]
      intro hinside
      rcases h with hquote | hempty | hlong | ⟨component, hmem, hcurrent, hnormal⟩
      · apply hclosed
        rw [takeWhile_eq_self_iff_not_mem.mpr hquote]
      · exact hname.1 (by simpa [directiveName] using hempty)
      · rw [directiveName, Text.utf8ByteSize_ofList] at hlong
        omega
      · have hkind := List.all_eq_true.mp hinside component hmem
        cases component with
        | current => exact hcurrent rfl
        | normal name => exact hnormal name rfl
        | root => simp [Path.Component.staysInside] at hkind
        | parent => simp [Path.Component.staysInside] at hkind

/-- A directive that is not malformed names a file. -/
theorem includeName?_of_wellFormed {text : List Char} (h : ¬ IsMalformed text) :
    includeName? (behindQuote text) = some (directiveName text) := by
  unfold IsMalformed at h
  push Not at h
  obtain ⟨hquote, hempty, hshort, hinside⟩ := h
  have hclosed := length_takeWhile_ne_of_mem hquote
  have hname : (behindQuote text).takeWhile (· ≠ '"') ≠ [] := by
    intro hnil
    apply hempty
    rw [directiveName, hnil]
  have hsize : ¬ ShaderConfig.maxIncludeNameSize <
      Text.extent ((behindQuote text).takeWhile (· ≠ '"')) := by
    rw [directiveName, Text.utf8ByteSize_ofList] at hshort
    omega
  have hstays : (directiveName text).staysInside = true := by
    refine List.all_eq_true.mpr fun component hmem => ?_
    by_cases hcurrent : component = .current
    · rw [hcurrent]
      rfl
    · obtain ⟨name, rfl⟩ := hinside component hmem hcurrent
      rfl
  unfold includeName?
  dsimp only
  rw [if_neg hclosed, if_neg (not_or.mpr ⟨hname, hsize⟩)]
  exact if_pos hstays

section Laws

variable (config : ShaderConfig) (top path : Path) (splice : Nat → Path → Walk)

/-- What becomes of a text at its first directive, which stands on the given line: `before` is the
text in front of it, and `behind` is what follows its mark. -/
def expandDirective (line budget : Nat) (before behind source : List Char) : Walk :=
  let onLine := behind.takeWhile (· ≠ '\n')
  let rest := behind.drop onLine.length
  let inPlace := before ++ includeMark ++ onLine
  match includeName? onLine with
  | none =>
    (expandText config top path splice line budget rest).prepend inPlace [.malformed path line]
  | some name =>
    if (config.path name).same path || (config.path name).same top then
      ⟨source, budget, [.selfIncluded path line name]⟩
    else match budget with
      | 0 => (expandText config top path splice line 0 rest).prepend inPlace [.refused]
      | budget + 1 =>
        let file := splice budget (config.path name)
        (expandText config top path splice line file.budget rest).prepend
          (before ++ file.text ++ lineMarker line rest) file.events

/-- A text is kept up to its first directive. -/
theorem expandText_eq (line budget : Nat) (source : List Char) :
    expandText config top path splice line budget source =
      match directive? source with
      | none => ⟨source, budget, []⟩
      | some offset =>
        expandDirective config top path splice (line + (source.take offset).count '\n') budget
          (source.take offset) (source.drop (offset + includeMark.length)) source := by
  rw [expandText.eq_def]
  split
  · rename_i found
    simp only [found]
  · rename_i offset found
    simp only [found]
    rfl

/-- What stands in front of a directive is kept in front. -/
theorem expandDirective_append (front : List Char) (line budget : Nat)
    (before behind source : List Char) :
    expandDirective config top path splice line budget (front ++ before) behind
        (front ++ source) =
      (expandDirective config top path splice line budget before behind source).prepend
        front [] := by
  unfold expandDirective
  dsimp only
  split
  · simp [Walk.prepend]
  · split
    · simp [Walk.prepend]
    · split <;> simp [Walk.prepend]

/-- A plain line above others is copied, and the next line gets the next number. -/
theorem expandText_above {text : List Char} (htext : '\n' ∉ text)
    (hplain : ¬ includeMark <+: text) (line budget : Nat) (rest : List Char) :
    expandText config top path splice line budget (text ++ '\n' :: rest) =
      (expandText config top path splice (line + 1) budget rest).prepend (text ++ ['\n']) [] := by
  rw [expandText_eq, expandText_eq, directive?_plain_line htext hplain]
  have hsource : text ++ '\n' :: rest = (text ++ ['\n']) ++ rest := by simp
  cases directive? rest with
  | none => simp [Walk.prepend]
  | some offset =>
    have hoffset : offset + (text.length + 1) = (text ++ ['\n']).length + offset := by
      rw [List.length_append, List.length_singleton]
      omega
    have hcount : line + ((text ++ ['\n']) ++ rest.take offset).count '\n' =
        line + 1 + (rest.take offset).count '\n' := by
      rw [List.count_append, List.count_append, List.count_eq_zero.mpr htext,
        List.count_singleton_self]
      omega
    simp only [Option.map_some]
    rw [hoffset, hsource, List.take_length_add_append, hcount, Nat.add_assoc _ offset,
      List.drop_length_add_append, expandDirective_append]

/-- Behind the last line nothing is left to expand. -/
theorem expandText_nil (line budget : Nat) :
    expandText config top path splice line budget [] = ⟨[], budget, []⟩ := by
  rw [expandText_eq]
  rfl

/-- The end of a line is copied, and the line below it gets the next number. -/
theorem expandText_below_cons (line budget : Nat) (text : List Char) (rest : List (List Char)) :
    expandText config top path splice line budget (below (text :: rest)) =
      (expandText config top path splice (line + 1) budget (text ++ below rest)).prepend
        ['\n'] [] := by
  have hplain : ¬ includeMark <+: ([] : List Char) := by decide
  have h := @expandText_above config top path splice [] (by simp) hplain line budget
    (text ++ below rest)
  rwa [List.nil_append, List.nil_append, ← below_cons] at h

/-- A plain line is copied. -/
theorem expandText_plain {text : List Char} (htext : '\n' ∉ text)
    (hplain : ¬ includeMark <+: text) (line budget : Nat) (rest : List (List Char)) :
    expandText config top path splice line budget (text ++ below rest) =
      (expandText config top path splice line budget (below rest)).prepend text [] := by
  cases rest with
  | nil =>
    rw [below_nil, List.append_nil, expandText_eq, directive?_last_line htext hplain,
      expandText_nil]
    simp [Walk.prepend]
  | cons next rest =>
    rw [expandText_below_cons, below_cons, expandText_above config top path splice htext hplain]
    simp [Walk.prepend]

/-- The first line of a text, when it is a directive, is expanded first. -/
theorem expandText_directive {text : List Char} (htext : '\n' ∉ text)
    (hmark : includeMark <+: text) (line budget : Nat) (rest : List (List Char)) :
    expandText config top path splice line budget (text ++ below rest) =
      match includeName? (behindQuote text) with
      | none =>
        (expandText config top path splice line budget (below rest)).prepend text
          [.malformed path line]
      | some name =>
        if (config.path name).same path || (config.path name).same top then
          ⟨text ++ below rest, budget, [.selfIncluded path line name]⟩
        else match budget with
          | 0 =>
            (expandText config top path splice line 0 (below rest)).prepend text [.refused]
          | budget + 1 =>
            let file := splice budget (config.path name)
            (expandText config top path splice line file.budget (below rest)).prepend
              (file.text ++ lineMarker line (below rest)) file.events := by
  obtain ⟨onLine, rfl⟩ := hmark
  have honLine : '\n' ∉ onLine := fun h => htext (List.mem_append_right _ h)
  have hbehind : behindQuote (includeMark ++ onLine) = onLine := List.drop_left
  have htake : (onLine ++ below rest).takeWhile (· ≠ '\n') = onLine :=
    takeWhile_append_below honLine rest
  rw [expandText_eq, List.append_assoc, directive?_of_mark (List.prefix_append _ _), hbehind]
  simp only [List.take_zero, List.count_nil, Nat.add_zero, Nat.zero_add, List.drop_left]
  unfold expandDirective
  simp only [htake, List.drop_left, List.nil_append]

variable {text : List Char} (htext : '\n' ∉ text) (hmark : includeMark <+: text)

include htext hmark

/-- A malformed directive is kept. -/
theorem expandText_malformed (hmalformed : IsMalformed text) (line budget : Nat)
    (rest : List (List Char)) :
    expandText config top path splice line budget (text ++ below rest) =
      (expandText config top path splice line budget (below rest)).prepend text
        [.malformed path line] := by
  rw [expandText_directive config top path splice htext hmark,
    includeName?_of_malformed hmalformed]

/-- A directive that names its own file or the top-level one ends the expansion of its file. -/
theorem expandText_selfInclude (hwell : ¬ IsMalformed text)
    (hitself : NamesItself config top path text) (line budget : Nat)
    (rest : List (List Char)) :
    expandText config top path splice line budget (text ++ below rest) =
      ⟨text ++ below rest, budget, [.selfIncluded path line (directiveName text)]⟩ := by
  rw [expandText_directive config top path splice htext hmark, includeName?_of_wellFormed hwell]
  exact if_pos (Bool.or_eq_true_iff.mpr hitself)

/-- Without budget a directive is kept. -/
theorem expandText_refused (hwell : ¬ IsMalformed text)
    (hother : ¬ NamesItself config top path text) (line : Nat) (rest : List (List Char)) :
    expandText config top path splice line 0 (text ++ below rest) =
      (expandText config top path splice line 0 (below rest)).prepend text [.refused] := by
  rw [expandText_directive config top path splice htext hmark, includeName?_of_wellFormed hwell]
  exact if_neg fun h => hother (Bool.or_eq_true_iff.mp h)

/-- With budget a directive is replaced by its file and a marker. -/
theorem expandText_spliced (hwell : ¬ IsMalformed text)
    (hother : ¬ NamesItself config top path text) (line budget : Nat)
    (rest : List (List Char)) :
    expandText config top path splice line (budget + 1) (text ++ below rest) =
      (expandText config top path splice line
          (splice budget (config.path (directiveName text))).budget (below rest)).prepend
        ((splice budget (config.path (directiveName text))).text ++ lineMarker line (below rest))
        (splice budget (config.path (directiveName text))).events := by
  rw [expandText_directive config top path splice htext hmark, includeName?_of_wellFormed hwell]
  exact if_neg fun h => hother (Bool.or_eq_true_iff.mp h)

end Laws

end Shaderbox
