import Shaderbox.Log.Logger

/-!
# What the logger writes

What is written shows: control characters other than the separators of words and lines never get
through, nothing is added, and a text without them is written as it stands. The logger itself is
installed once. The first attempt decides about its filter and its header, and whatever is asked for
later changes neither and writes nothing.
-/

namespace Shaderbox

namespace Text

/-! ### Text that shows -/

/-- A character shows if it is no control character, or one of those that separate words and
lines. -/
def IsShown (c : Char) : Prop :=
  (0x20 ≤ c.toNat ∧ c.toNat ≠ 0x7F) ∨ c = '\t' ∨ c = '\n' ∨ c = '\x0C' ∨ c = '\r'

instance (c : Char) : Decidable (IsShown c) := inferInstanceAs (Decidable (_ ∨ _))

theorem isShown_of_all {text : List Char} (h : text.all (decide <| IsShown ·) = true) :
    ∀ c ∈ text, IsShown c :=
  fun c member => of_decide_eq_true (List.all_eq_true.mp h c member)

namespace Terminal

/-- Only characters that show get through. -/
theorem isShown_of_step {terminal : Terminal} {c : Char} (h : (terminal.step c).1 = true) :
    IsShown c := by
  by_cases control : c.toNat < 0x20 ∨ c.toNat = 0x7F
  · -- such a character shows only as a separator
    have notWide : ¬c.toNat ≥ 0x80 := by omega
    have notPrinting : ¬(0x20 ≤ c.toNat ∧ c.toNat < 0x7F) := by omega
    simp only [step, if_neg notWide, if_neg notPrinting] at h
    split at h
    · next separator => exact .inr separator
    · exact absurd h (by simp)
  · exact .inl (by omega)

/-- Between sequences every character that shows gets through, and no sequence begins. -/
theorem step_of_isShown {c : Char} (h : IsShown c) : ({} : Terminal).step c = (true, {}) := by
  have open_ : ({} : Terminal).shows = true := rfl
  rcases h with ⟨low, notDelete⟩ | separator
  · by_cases wide : c.toNat ≥ 0x80
    · simp [step, wide, open_]
    · have printing : 0x20 ≤ c.toNat ∧ c.toNat < 0x7F := by omega
      simp [step, wide, printing, open_]
  · rcases separator with rfl | rfl | rfl | rfl <;> decide

theorem shown_cons (terminal : Terminal) (c : Char) (rest : List Char) :
    terminal.shown (c :: rest) =
      (if (terminal.step c).1 then [c] else []) ++ (terminal.step c).2.shown rest := by
  simp only [shown]
  split <;> rfl

theorem shown_sublist (terminal : Terminal) (text : List Char) :
    (terminal.shown text).Sublist text := by
  induction text generalizing terminal with
  | nil => exact List.Sublist.refl _
  | cons c rest ih =>
    rw [shown_cons]
    split
    · exact (ih _).cons_cons c
    · exact (ih _).cons c

theorem isShown_of_mem_shown {terminal : Terminal} {text : List Char} {c : Char}
    (h : c ∈ terminal.shown text) : IsShown c := by
  induction text generalizing terminal with
  | nil => exact absurd h List.not_mem_nil
  | cons d rest ih =>
    rw [shown_cons] at h
    rcases List.mem_append.mp h with first | later
    · split at first
      · next visible => exact List.mem_singleton.mp first ▸ isShown_of_step visible
      · exact absurd first List.not_mem_nil
    · exact ih later

end Terminal

/-- Nothing is added and nothing is moved. -/
theorem withoutControl_sublist (text : List Char) : (withoutControl text).Sublist text :=
  Terminal.shown_sublist {} text

/-- A text stays as it is just if all of it shows. -/
theorem withoutControl_eq_self_iff {text : List Char} :
    withoutControl text = text ↔ ∀ c ∈ text, IsShown c := by
  constructor
  · intro same c member
    rw [← same] at member
    exact Terminal.isShown_of_mem_shown member
  · intro h
    unfold withoutControl
    induction text with
    | nil => rfl
    | cons c rest ih =>
      rw [Terminal.shown_cons, Terminal.step_of_isShown (h c List.mem_cons_self)]
      rw [ih fun d member => h d (List.mem_cons_of_mem c member)]
      rfl

/-- All terminal control goes at once. -/
theorem withoutControl_withoutControl (text : List Char) :
    withoutControl (withoutControl text) = withoutControl text :=
  withoutControl_eq_self_iff.mpr fun _ member => Terminal.isShown_of_mem_shown member

end Text

/-! ### Pieces of a text -/

/-- What is put together from pieces holds their characters and those between them. -/
theorem forall_mem_intercalate {P : Char → Prop} (between : List Char) {pieces : List (List Char)}
    (hbetween : ∀ c ∈ between, P c) (hpieces : ∀ piece ∈ pieces, ∀ c ∈ piece, P c) :
    ∀ c ∈ between.intercalate pieces, P c := by
  induction pieces with
  | nil => simp
  | cons first rest ih =>
    have hfirst := hpieces first List.mem_cons_self
    have hrest := ih fun piece member => hpieces piece (List.mem_cons_of_mem first member)
    by_cases last : rest = []
    · subst last
      simpa using hfirst
    · rw [List.intercalate_cons_of_ne_nil last]
      intro c member
      rcases List.mem_append.mp member with front | back
      · rcases List.mem_append.mp front with here | after
        · exact hfirst c here
        · exact hbetween c after
      · exact hrest c back

theorem mem_intercalate_of_mem {between piece : List Char} {pieces : List (List Char)} {c : Char}
    (hpiece : piece ∈ pieces) (hc : c ∈ piece) : c ∈ between.intercalate pieces := by
  induction pieces with
  | nil => exact absurd hpiece List.not_mem_nil
  | cons first rest ih =>
    by_cases last : rest = []
    · subst last
      simpa [List.mem_singleton.mp hpiece] using hc
    · rw [List.intercalate_cons_of_ne_nil last]
      rcases List.mem_cons.mp hpiece with rfl | later
      · simp [hc]
      · simp [ih later]

/-- The pieces between marks are parts of the text. -/
theorem mem_of_mem_splitOn {mark : Char} {text piece : List Char} {c : Char}
    (hpiece : piece ∈ text.splitOn mark) (hc : c ∈ piece) : c ∈ text := by
  have member : c ∈ [mark].intercalate (text.splitOn mark) := mem_intercalate_of_mem hpiece hc
  rwa [List.intercalate_splitOn] at member

namespace Logger

/-! ### Records -/

theorem isShown_of_mem_paddedName {level : LogLevel} :
    ∀ c ∈ paddedName level, Text.IsShown c := by
  cases level <;> exact Text.isShown_of_all (by decide)

variable {logger : Logger} {time target : String} {record : LogRecord}

theorem isShown_of_mem_header (htime : ∀ c ∈ time.toList, Text.IsShown c)
    (htarget : ∀ c ∈ target.toList, Text.IsShown c) {level : LogLevel} :
    ∀ c ∈ logger.header time target level, Text.IsShown c := by
  have parts : ∀ part ∈ (if logger.timestamps then [time.toList] else []) ++ [paddedName level] ++
      (if target.isEmpty then [] else [target.toList]), ∀ c ∈ part, Text.IsShown c := by
    intro part member
    rcases List.mem_append.mp member with front | last
    · rcases List.mem_append.mp front with first | name
      · split at first
        · exact List.mem_singleton.mp first ▸ htime
        · exact absurd first List.not_mem_nil
      · exact List.mem_singleton.mp name ▸ isShown_of_mem_paddedName
    · split at last
      · exact absurd last List.not_mem_nil
      · exact List.mem_singleton.mp last ▸ htarget
  have inside := forall_mem_intercalate [' '] (Text.isShown_of_all (by decide)) parts
  simp only [header, List.forall_mem_cons, List.forall_mem_append]
  exact ⟨⟨by decide, inside⟩, by decide, by decide, by simp⟩

/-- Nothing is lost of a record whose parts show. -/
theorem write_of_isShown (htime : ∀ c ∈ time.toList, Text.IsShown c)
    (htarget : ∀ c ∈ target.toList, Text.IsShown c)
    (hmessage : ∀ c ∈ record.message.toList, Text.IsShown c)
    (h : logger.filter.admits target record = true) :
    logger.write time target record = logger.format time target record := by
  rw [write, if_pos h]
  refine Text.withoutControl_eq_self_iff.mpr ?_
  have pieces : ∀ piece ∈ record.message.toList.splitOn '\n', ∀ c ∈ piece, Text.IsShown c :=
    fun piece member c hc => hmessage c (mem_of_mem_splitOn member hc)
  have lines := forall_mem_intercalate ('\n' :: List.replicate 4 ' ') 
    (Text.isShown_of_all (by decide)) pieces
  simp only [format, List.forall_mem_append]
  exact ⟨⟨isShown_of_mem_header htime htarget, lines⟩, Text.isShown_of_all (by decide)⟩

/-- Everything that is written for a record shows. -/
theorem isShown_of_mem_write {c : Char}
    (h : c ∈ logger.write time target record) : Text.IsShown c := by
  unfold write at h
  split at h
  · exact Text.Terminal.isShown_of_mem_shown h
  · exact absurd h List.not_mem_nil

/-! ### Installation -/

/-- One attempt to install the logger: its settings, the filter in the environment and the time. -/
structure Attempt where
  settings : LogSettings
  environment : Option String
  time : String

/-- Try to install the logger, and keep what is written. -/
def tryInstall (state : Option Logger × List Char) (attempt : Attempt) :
    Option Logger × List Char :=
  let (logger, text) := install attempt.settings attempt.environment attempt.time state.1
  (some logger, state.2 ++ text)

/-- An installed logger stays. -/
theorem foldl_tryInstall_some (logger : Logger) (text : List Char) (later : List Attempt) :
    later.foldl tryInstall (some logger, text) = (some logger, text) := by
  induction later with
  | nil => rfl
  | cons attempt rest ih =>
    have stays : tryInstall (some logger, text) attempt = (some logger, text) := by
      simp [tryInstall, install]
    rw [List.foldl_cons, stays, ih]

/-- However often the logger is installed, only the first time counts. -/
theorem foldl_tryInstall_none (first : Attempt) (later : List Attempt) :
    (first :: later).foldl tryInstall (none, []) = tryInstall (none, []) first := by
  rw [List.foldl_cons]
  exact foldl_tryInstall_some _ _ later

end Logger

end Shaderbox
