import Mathlib.Data.List.Infix
import Mathlib.Data.List.TakeWhile

/-!
# Texts and their lines

A text is taken apart at its line feeds and put together again. Nothing else ends a line, and a
line feed at the very end of a text leaves one more line behind it, which is empty.
-/

namespace Shaderbox

/-- The lines of a text, which end at line feeds only. -/
def linesOf (text : List Char) : List (List Char) :=
  text.splitOn '\n'

/-- Lines written one below the other, with a line feed between neighbours only. -/
def joinLines (lines : List (List Char)) : List Char :=
  ['\n'].intercalate lines

/-- A text is what its lines are put together to. -/
@[simp] theorem joinLines_linesOf (text : List Char) : joinLines (linesOf text) = text :=
  List.intercalate_splitOn '\n'

/-- Lines without line feeds are found again in the text that they make. -/
theorem linesOf_joinLines {lines : List (List Char)} (hfeed : ∀ line ∈ lines, '\n' ∉ line)
    (hsome : lines ≠ []) : linesOf (joinLines lines) = lines :=
  List.splitOn_intercalate '\n' hfeed hsome

/-- Every text has a line. -/
theorem linesOf_ne_nil (text : List Char) : linesOf text ≠ [] :=
  List.splitOn_ne_nil '\n' text

@[simp] theorem joinLines_nil : joinLines [] = [] := rfl

@[simp] theorem joinLines_singleton (line : List Char) : joinLines [line] = line :=
  List.intercalate_singleton

@[simp] theorem joinLines_cons_cons (line next : List Char) (rest : List (List Char)) :
    joinLines (line :: next :: rest) = line ++ '\n' :: joinLines (next :: rest) := by
  simp [joinLines, List.intercalate_cons_cons]

/-- What follows a line in a text: the lines below it, each behind a line feed. -/
def below (lines : List (List Char)) : List Char :=
  lines.flatMap ('\n' :: ·)

@[simp] theorem below_nil : below [] = [] := rfl

@[simp] theorem below_cons (line : List Char) (rest : List (List Char)) :
    below (line :: rest) = '\n' :: (line ++ below rest) := rfl

@[simp] theorem below_append (front back : List (List Char)) :
    below (front ++ back) = below front ++ below back :=
  List.flatMap_append

/-- A text is its first line and what follows it. -/
theorem joinLines_cons (line : List Char) (rest : List (List Char)) :
    joinLines (line :: rest) = line ++ below rest := by
  induction rest generalizing line with
  | nil => simp
  | cons next rest ih => rw [joinLines_cons_cons, ih, below_cons]

/-- What holds no such character is read past. -/
theorem takeWhile_append_of_not_mem {c : Char} {front : List Char} (h : c ∉ front)
    (back : List Char) :
    (front ++ back).takeWhile (· ≠ c) = front ++ back.takeWhile (· ≠ c) :=
  List.takeWhile_append_of_pos fun _ hd => decide_eq_true (ne_of_mem_of_not_mem hd h)

/-- A text is read to its end exactly if it holds no such character. -/
theorem takeWhile_eq_self_iff_not_mem {c : Char} {text : List Char} :
    text.takeWhile (· ≠ c) = text ↔ c ∉ text := by
  rw [List.takeWhile_eq_self_iff]
  constructor
  · intro hall hc
    simpa using hall c hc
  · intro h d hd
    exact decide_eq_true (ne_of_mem_of_not_mem hd h)

/-- In a text that holds the character the reading stops before the end. -/
theorem length_takeWhile_ne_of_mem {c : Char} {text : List Char} (h : c ∈ text) :
    (text.takeWhile (· ≠ c)).length ≠ text.length := by
  intro hlength
  exact takeWhile_eq_self_iff_not_mem.mp ((List.takeWhile_prefix _).eq_of_length hlength) h

/-- A line ends where what follows it begins. -/
theorem takeWhile_append_below {line : List Char} (hline : '\n' ∉ line)
    (rest : List (List Char)) : (line ++ below rest).takeWhile (· ≠ '\n') = line := by
  rw [takeWhile_append_of_not_mem hline]
  cases rest <;> simp

/-- A line of a text holds no line feed. -/
theorem feed_not_mem_of_mem_linesOf {text line : List Char} (h : line ∈ linesOf text) :
    '\n' ∉ line := by
  induction text generalizing line with
  | nil =>
    obtain rfl : line = [] := by simpa [linesOf] using h
    simp
  | cons c rest ih =>
    rw [linesOf, List.splitOn_cons_eq_if_modifyHead] at h
    split at h
    · rcases List.mem_cons.mp h with rfl | h
      · simp
      · exact ih h
    · rename_i hc
      obtain ⟨first, others, hsplit⟩ := List.exists_cons_of_ne_nil (linesOf_ne_nil rest)
      change line ∈ (linesOf rest).modifyHead (List.cons c) at h
      rw [hsplit, List.modifyHead_cons, List.mem_cons] at h
      rcases h with rfl | h
      · have hfirst : '\n' ∉ first := ih (hsplit ▸ List.mem_cons_self)
        simp only [List.mem_cons, not_or]
        exact ⟨fun heq => hc (beq_iff_eq.mpr heq.symm), hfirst⟩
      · exact ih (hsplit ▸ List.mem_cons_of_mem _ h)

/-- A word without line feeds that begins a text begins its first line. -/
theorem startsLine_of_startsText {word line rest : List Char} (hword : '\n' ∉ word)
    (h : word <+: line ++ '\n' :: rest) : word <+: line := by
  have hline : line ++ ['\n'] <+: line ++ '\n' :: rest := ⟨rest, by simp⟩
  rcases List.prefix_or_prefix_of_prefix h hline with hshort | hlong
  · rcases List.prefix_concat_iff.mp hshort with rfl | hshort
    · simp at hword
    · exact hshort
  · exact absurd (hlong.subset (by simp)) hword

end Shaderbox
