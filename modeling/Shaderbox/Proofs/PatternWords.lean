import Shaderbox.Pattern.Meaning
import Shaderbox.Proofs.PatternMatches
import Shaderbox.Text.Extent
import Shaderbox.Text.Search

/-!
# Words as patterns

Most patterns in use are plain words. Where none of its characters is a sign, a written pattern is
read as the text that it looks like, and occurs where that text does. Only its extent matters, since
the automaton for a longer one would take too much room.
-/

namespace Shaderbox.Pattern

/-! ### Texts as patterns -/

/-- A sequence of patterns is its first pattern and then the others. -/
theorem describes_ofSequence_cons {text : List Char} {first : Pattern} {rest : List Pattern}
    {start stop : Nat} :
    (ofSequence (first :: rest)).Describes text start stop ↔
      ∃ middle, first.Describes text start middle ∧
        (ofSequence rest).Describes text middle stop := by
  cases rest with
  | nil => simp [ofSequence, Describes]
  | cons => rfl

/-- The pattern of one text. -/
def verbatim (part : List Char) : Pattern := ofSequence (part.map fun c => char (.single c))

theorem describes_verbatim {text part : List Char} {start stop : Nat} :
    (verbatim part).Describes text start stop ↔
      stop = start + part.length ∧ part <+: text.drop start := by
  unfold verbatim
  induction part generalizing start with
  | nil => simp [ofSequence, Describes]
  | cons c rest ih =>
    simp only [List.map_cons, describes_ofSequence_cons, ih, Describes, CharSet.contains_single,
      beq_iff_eq, exists_eq_right, List.length_cons]
    by_cases h : start < text.length
    · rw [List.drop_eq_getElem_cons h, List.cons_prefix_cons, List.getElem?_eq_getElem h,
        Option.some.injEq]
      constructor
      · rintro ⟨_, ⟨rfl, rfl⟩, rfl, hrest⟩
        exact ⟨by omega, rfl, hrest⟩
      · rintro ⟨rfl, rfl, hrest⟩
        exact ⟨_, ⟨rfl, rfl⟩, by omega, hrest⟩
    · have beyond := Nat.le_of_not_lt h
      simp [List.getElem?_eq_none beyond, List.drop_eq_nil_of_le beyond]

/-- The pattern of one text occurs where that text does. -/
theorem occurs_verbatim (part text : List Char) :
    (verbatim part).occurs text = Text.occurs part text := by
  rw [Bool.eq_iff_iff, occurs_iff, Text.occurs_iff_infix]
  simp only [describes_verbatim]
  constructor
  · rintro ⟨start, _, _, -, front⟩
    exact front.isInfix.trans (List.drop_suffix start text).isInfix
  · rintro ⟨before, after, rfl⟩
    refine ⟨before.length, _, ?_, rfl, after, ?_⟩
    · simp
    · simp

/-! ### Reading words -/

/-- The characters that do not stand for themselves outside classes. -/
def signs : List Char := ['(', ')', '|', '\x7B', '?', '*', '+', '[', '\\', '.', '^', '$']

/-- Characters that stand for themselves, from a place on. -/
def literals (place : Nat) : List Char → List Tree
  | [] => []
  | c :: rest => .literal ⟨⟨place, place + 1⟩, c, false⟩ :: literals (place + 1) rest

namespace Reader

/-- A character that is no sign is a part by itself. -/
theorem part_of_plain {c : Char} (plain : c ∉ signs) (reader : Reader) :
    reader.part c = .ok (.literal (reader.verbatim c), reader.advance 1) := by
  simp only [signs, List.mem_cons, not_or] at plain
  unfold part
  split <;> simp_all

/-- A character that is no sign repeats nothing. -/
theorem repetition?_of_plain {c : Char} (plain : c ∉ signs) (reader : Reader) :
    reader.repetition? c = none := by
  simp only [signs, List.mem_cons, not_or] at plain
  unfold repetition? repetitionSign?
  split
  · simp_all
  · split <;> simp_all

theorem skip_of_not_spaced {reader : Reader} (h : reader.spaced = false) :
    reader.skip = reader := by
  simp [skip, h]

theorem body_end {reader : Reader} (hspaced : reader.spaced = false) (hrest : reader.rest = [])
    (fuel : Nat) (read : OpenBody) :
    body (fuel + 1) read reader = .ok (read.tree reader.place, reader) := by
  simp only [body, skip_of_not_spaced hspaced, hrest]
  rfl

theorem body_cons {reader : Reader} (hspaced : reader.spaced = false) {c : Char}
    {rest : List Char} (hrest : reader.rest = c :: rest) (plain : c ∉ signs) (fuel : Nat)
    (read : OpenBody) :
    body (fuel + 1) read reader =
      body fuel (read.push (.literal (reader.verbatim c))) (reader.advance 1) := by
  have apart : c ≠ ')' ∧ c ≠ '|' ∧ c ≠ '(' := by
    refine ⟨?_, ?_, ?_⟩ <;> rintro rfl <;> exact plain (by decide)
  obtain ⟨closing, branch, opening⟩ := apart
  simp only [body, skip_of_not_spaced hspaced, hrest, if_neg closing, if_neg branch,
    if_neg opening, repetition?_of_plain plain, part_of_plain plain]
  rfl

/-- A text without signs is read to its end, one character at a time. -/
theorem body_of_plain {text : List Char} (plain : ∀ c ∈ text, c ∉ signs) (fuel : Nat)
    (read : OpenBody) (reader : Reader) (hspaced : reader.spaced = false)
    (hrest : reader.rest = text) :
    ∃ behind : Reader, behind.rest = [] ∧ body (text.length + 1 + fuel) read reader =
      .ok ({ read with parts := (literals reader.place text).reverse ++ read.parts }.tree
        (reader.place + text.length), behind) := by
  induction text generalizing read reader with
  | nil =>
    refine ⟨reader, hrest, ?_⟩
    rw [List.length_nil, Nat.zero_add, Nat.add_comm]
    exact body_end hspaced hrest fuel read
  | cons c rest ih =>
    obtain ⟨behind, hbehind, hbody⟩ := ih (fun d hd => plain d (List.mem_cons_of_mem c hd))
      (read.push (.literal (reader.verbatim c))) (reader.advance 1) hspaced
      (by simp [advance, hrest])
    refine ⟨behind, hbehind, ?_⟩
    have onward : (reader.advance 1).place = reader.place + 1 := by simp [advance, hrest]
    rw [List.length_cons, Nat.add_right_comm (rest.length + 1) 1 fuel,
      body_cons hspaced hrest (plain c List.mem_cons_self), hbody, onward, Nat.add_assoc,
      Nat.add_comm 1]
    simp [OpenBody.push, literals, verbatim, nextSpan]

end Reader

theorem mem_literals {place : Nat} {text : List Char} {part : Tree}
    (h : part ∈ literals place text) : ∃ l, part = .literal l := by
  induction text generalizing place with
  | nil => exact absurd h List.not_mem_nil
  | cons c rest ih =>
    rcases List.mem_cons.mp h with rfl | later
    · exact ⟨_, rfl⟩
    · exact ih later

/-- Characters one after the other are not nested. -/
theorem tooDeep?_literals (span : Span) (place : Nat) (text : List Char) :
    (Tree.ofParts span (literals place text)).tooDeep? nestingLimit = none := by
  match text with
  | [] => simp [literals, Tree.ofParts, Tree.tooDeep?]
  | [c] => simp [literals, Tree.ofParts, Tree.tooDeep?]
  | c :: d :: rest =>
    simp only [literals, Tree.ofParts, Tree.tooDeep?, nestingLimit]
    rw [if_neg (by decide), List.findSome?_eq_none_iff]
    rintro ⟨part, hpart⟩ -
    obtain ⟨l, rfl⟩ := mem_literals (show part ∈ literals place (c :: d :: rest) from hpart)
    simp only [Tree.tooDeep?]

/-- A text without signs is read as its characters. -/
theorem Tree.read_of_plain {text : List Char} (plain : ∀ c ∈ text, c ∉ signs) :
    Tree.read text = .ok (.ofParts ⟨0, text.length⟩ (literals 0 text)) := by
  obtain ⟨behind, hbehind, hbody⟩ :=
    Reader.body_of_plain plain 0 { start := 0 } { rest := text } rfl rfl
  have whole : ({ start := 0, parts := (literals 0 text).reverse ++ [] } : OpenBody).tree
      (0 + text.length) = .ofParts ⟨0, text.length⟩ (literals 0 text) := by
    simp [OpenBody.tree, OpenBody.branch]
  rw [whole] at hbody
  unfold Tree.read
  rw [← Nat.add_zero (text.length + 1), hbody]
  simp only [bind, Except.bind, hbehind, tooDeep?_literals]
  rfl

theorem meaning_literal (l : Literal) :
    Tree.meaning {} (.literal l) = .ok (char (.single l.char), {}) := by
  simp only [Tree.meaning]
  rfl

/-- Characters that stand for themselves mean themselves. -/
theorem meanings_literals (place : Nat) (text : List Char) :
    Tree.meanings {} (literals place text) = .ok (text.map fun c => char (.single c), {}) := by
  induction text generalizing place with
  | nil => rfl
  | cons c rest ih =>
    simp only [literals, Tree.meanings, meaning_literal]
    simp only [bind, Except.bind, ih]
    rfl

/-- Characters one after the other mean their text. -/
theorem meaning_ofParts_literals (span : Span) (text : List Char) :
    (Tree.ofParts span (literals 0 text)).meaning {} = .ok (verbatim text, {}) := by
  match text with
  | [] => simp only [literals, Tree.ofParts, Tree.meaning]; rfl
  | [c] => exact meaning_literal _
  | c :: d :: rest =>
    have parts := meanings_literals 0 (c :: d :: rest)
    simp only [literals, Tree.ofParts, Tree.meaning] at parts ⊢
    simp only [bind, Except.bind, parts]
    rfl

theorem weight_ofSequence_cons (first : Pattern) {rest : List Pattern} (h : rest ≠ []) :
    (ofSequence (first :: rest)).weight = first.weight + (ofSequence rest).weight := by
  cases rest with
  | nil => exact absurd rfl h
  | cons => rfl

/-- The weight of a text is that of its characters. -/
theorem weight_verbatim {text : List Char} (h : text ≠ []) :
    (verbatim text).weight = stateWeight * Text.extent text := by
  unfold verbatim
  induction text with
  | nil => exact absurd rfl h
  | cons c rest ih =>
    by_cases last : rest = []
    · subst last
      simp [ofSequence, weight, CharSet.single]
    · rw [List.map_cons, weight_ofSequence_cons _ (by simpa using last), ih last]
      simp [weight, CharSet.single, Nat.mul_add]

theorem needsAllScripts_verbatim (text : List Char) : (verbatim text).needsAllScripts = false := by
  unfold verbatim
  induction text with
  | nil => rfl
  | cons c rest ih =>
    cases rest with
    | nil => rfl
    | cons => simpa [ofSequence, needsAllScripts] using ih

/-- A text without signs is a pattern for itself. -/
theorem read_of_plain {text : List Char} (plain : ∀ c ∈ text, c ∉ signs)
    (small : stateWeight * Text.extent text ≤ weightLimit) :
    Pattern.read text = .ok (verbatim text) := by
  unfold Pattern.read
  simp only [Tree.read_of_plain plain, bind, Except.bind, meaning_ofParts_literals]
  have light : ¬weightLimit < (verbatim text).weight := by
    by_cases empty : text = []
    · subst empty
      decide
    · rw [weight_verbatim empty]
      exact Nat.not_lt.mpr small
  rw [if_neg light, needsAllScripts_verbatim]
  rfl

end Shaderbox.Pattern
