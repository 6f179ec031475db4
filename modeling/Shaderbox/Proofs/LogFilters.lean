import Mathlib.Data.List.Induction
import Shaderbox.Log.Filter
import Shaderbox.Proofs.PatternWords

/-!
# What log filters let through

A written filter is read part by part: the directives that are left are the last ones for their
targets (`mem_readDirectives_iff`), and every part that is none is reported once and otherwise left
out. Of the directives that cover a target, the last of the longest decides
(`deciding?_eq_some_iff`), and a record passes by the level of that one and by the pattern for
messages, which must describe some stretch of the message (`admits_iff`).

A plain word behind the slash asks for messages that hold the word and changes nothing else
(`read_withWord`, `admits_withWord`).
-/

namespace Shaderbox.LogFilter

/-! ### Reading directives -/

/-- No two directives have one target. -/
def DistinctTargets (directives : List LogDirective) : Prop :=
  directives.Pairwise fun one other => one.target ≠ other.target

/-- The parts of a filter that hold something. -/
def written (parts : List (List Char)) : List (List Char) :=
  (parts.map Text.trim).filter fun part => !part.isEmpty

/-- Read one more part. -/
def readPart (read : List LogDirective × List LogFilterFault) (part : List Char) :
    List LogDirective × List LogFilterFault :=
  match readDirective part with
  | .ok directive => (insert directive read.1, read.2)
  | .error fault => (read.1, read.2 ++ [fault])

theorem readDirectives_eq (parts : List (List Char)) :
    readDirectives parts = (written parts).foldl readPart ([], []) := rfl

/-- Inserting a directive takes away the one for its target. -/
theorem mem_insert_iff {directives : List LogDirective} (distinct : DistinctTargets directives)
    {new directive : LogDirective} :
    directive ∈ insert new directives ↔
      directive = new ∨ directive ∈ directives ∧ directive.target ≠ new.target := by
  induction directives with
  | nil => simp [insert]
  | cons other rest ih =>
    obtain ⟨apart, distinct⟩ := List.pairwise_cons.mp distinct
    simp only [insert]
    split
    · next same =>
      simp only [List.mem_cons]
      constructor
      · rintro (rfl | later)
        · exact .inl rfl
        · exact .inr ⟨.inr later, same ▸ (apart directive later).symm⟩
      · rintro (rfl | ⟨rfl | later, different⟩)
        · exact .inl rfl
        · exact absurd same different
        · exact .inr later
    · next different =>
      simp only [List.mem_cons, ih distinct]
      constructor
      · rintro (rfl | rfl | ⟨later, other⟩)
        · exact .inr ⟨.inl rfl, different⟩
        · exact .inl rfl
        · exact .inr ⟨.inr later, other⟩
      · rintro (rfl | ⟨rfl | later, other⟩)
        · exact .inr (.inl rfl)
        · exact .inl rfl
        · exact .inr (.inr ⟨later, other⟩)

theorem distinctTargets_insert (new : LogDirective) {directives : List LogDirective}
    (distinct : DistinctTargets directives) : DistinctTargets (insert new directives) := by
  induction directives with
  | nil => exact List.pairwise_singleton _ _
  | cons other rest ih =>
    obtain ⟨apart, rest_distinct⟩ := List.pairwise_cons.mp distinct
    simp only [insert]
    split
    · next same => exact List.pairwise_cons.mpr ⟨same ▸ apart, rest_distinct⟩
    · next different =>
      refine List.pairwise_cons.mpr ⟨fun directive member => ?_, ih rest_distinct⟩
      rcases (mem_insert_iff rest_distinct).mp member with rfl | ⟨later, -⟩
      · exact different
      · exact apart directive later

/-- A directive is the last that is written for its target. -/
def LastWritten (parts : List (List Char)) (directive : LogDirective) : Prop :=
  ∃ before part after, parts = before ++ part :: after ∧ readDirective part = .ok directive ∧
    ∀ other ∈ after, ∀ later, readDirective other = .ok later → directive.target ≠ later.target

theorem lastWritten_concat_iff {parts : List (List Char)} {part : List Char}
    {directive : LogDirective} :
    LastWritten (parts ++ [part]) directive ↔
      readDirective part = .ok directive ∨
        LastWritten parts directive ∧
          ∀ later, readDirective part = .ok later → directive.target ≠ later.target := by
  constructor
  · rintro ⟨before, chosen, after, split, reads, last⟩
    rcases List.eq_nil_or_concat after with rfl | ⟨front, final, rfl⟩
    · obtain ⟨-, ends⟩ := List.append_inj' split rfl
      obtain rfl := List.singleton_inj.mp ends
      exact .inl reads
    · rw [List.concat_eq_append] at split last
      obtain ⟨front_eq, ends⟩ :=
        List.append_inj' (split.trans (List.append_assoc before (chosen :: front) [final]).symm) rfl
      obtain rfl := List.singleton_inj.mp ends
      refine .inr ⟨⟨before, chosen, front, front_eq, reads, fun other member => ?_⟩, ?_⟩
      · exact last other (List.mem_append_left _ member)
      · exact last part (by simp)
  · rintro (reads | ⟨⟨before, chosen, after, rfl, reads, last⟩, apart⟩)
    · exact ⟨parts, part, [], rfl, reads, by simp⟩
    · refine ⟨before, chosen, after ++ [part], by simp, reads, ?_⟩
      intro other member later readsOther
      rcases List.mem_append.mp member with early | final
      · exact last other early later readsOther
      · exact apart later (List.mem_singleton.mp final ▸ readsOther)

theorem distinctTargets_foldl (parts : List (List Char)) :
    DistinctTargets (parts.foldl readPart ([], [])).1 := by
  induction parts using List.reverseRecOn with
  | nil => exact List.Pairwise.nil
  | append_singleton parts part ih =>
    rw [List.foldl_append, List.foldl_cons, List.foldl_nil, readPart]
    split
    · exact distinctTargets_insert _ ih
    · exact ih

/-- The directives that are left are the last ones for their targets. -/
theorem mem_readDirectives_iff {parts : List (List Char)} {directive : LogDirective} :
    directive ∈ (readDirectives parts).1 ↔ LastWritten (written parts) directive := by
  rw [readDirectives_eq]
  induction written parts using List.reverseRecOn with
  | nil => simp [LastWritten]
  | append_singleton parts part ih =>
    rw [List.foldl_append, List.foldl_cons, List.foldl_nil, readPart, lastWritten_concat_iff]
    split
    · next new reads =>
      simp only [mem_insert_iff (distinctTargets_foldl parts), ih, reads, Except.ok.injEq,
        forall_eq', eq_comm (a := directive)]
    · next fault reads => simp [ih, reads]

/-- Every part that is no directive is reported once, in order. -/
theorem readDirectives_faults (parts : List (List Char)) :
    (readDirectives parts).2 = (written parts).filterMap fun part =>
      match readDirective part with
      | .ok _ => none
      | .error fault => some fault := by
  rw [readDirectives_eq]
  induction written parts using List.reverseRecOn with
  | nil => rfl
  | append_singleton parts part ih =>
    rw [List.foldl_append, List.foldl_cons, List.foldl_nil, readPart, List.filterMap_append]
    split
    · next new reads => simp [ih, reads]
    · next fault reads => simp [ih, reads]

/-! ### The directive that decides -/

/-- A directive is the last of the longest. -/
def Prevails (directives : List LogDirective) (directive : LogDirective) : Prop :=
  ∃ before after, directives = before ++ directive :: after ∧
    (∀ other ∈ before, other.start.length ≤ directive.start.length) ∧
    ∀ other ∈ after, other.start.length < directive.start.length

theorem foldl_prevailing_of_shorter {directive : LogDirective} {after : List LogDirective}
    (shorter : ∀ other ∈ after, other.start.length < directive.start.length) :
    after.foldl prevailing (some directive) = some directive := by
  induction after with
  | nil => rfl
  | cons other rest ih =>
    have here := shorter other List.mem_cons_self
    rw [List.foldl_cons, prevailing, if_pos here]
    exact ih fun next member => shorter next (List.mem_cons_of_mem other member)

theorem foldl_prevailing_le {bound : Nat} {before : List LogDirective}
    (short : ∀ other ∈ before, other.start.length ≤ bound) {earlier : Option LogDirective}
    (hearlier : ∀ other, earlier = some other → other.start.length ≤ bound) {chosen : LogDirective}
    (h : before.foldl prevailing earlier = some chosen) : chosen.start.length ≤ bound := by
  induction before generalizing earlier with
  | nil => exact hearlier chosen h
  | cons next rest ih =>
    refine ih (fun other member => short other (List.mem_cons_of_mem next member)) ?_ h
    intro other hother
    have here := short next List.mem_cons_self
    cases earlier with
    | none => exact Option.some.inj hother ▸ here
    | some first =>
      simp only [prevailing] at hother
      split at hother
      · exact hearlier other hother
      · exact Option.some.inj hother ▸ here

/-- The last of the longest directives is the one that is chosen. -/
theorem foldl_prevailing_of_prevails {directives : List LogDirective} {directive : LogDirective}
    (h : Prevails directives directive) : directives.foldl prevailing none = some directive := by
  obtain ⟨before, after, rfl, short, shorter⟩ := h
  rw [List.foldl_append, List.foldl_cons]
  have chosen : prevailing (before.foldl prevailing none) directive = some directive := by
    cases hfold : before.foldl prevailing none with
    | none => rfl
    | some earlier =>
      have := foldl_prevailing_le short (fun other none_some => by cases none_some) hfold
      exact if_neg (by omega)
  rw [chosen]
  exact foldl_prevailing_of_shorter shorter

/-- Some directive of several prevails. -/
theorem exists_prevails {directives : List LogDirective} (h : directives ≠ []) :
    ∃ directive, Prevails directives directive := by
  induction directives with
  | nil => exact absurd rfl h
  | cons first rest ih =>
    by_cases last : rest = []
    · exact ⟨first, [], rest, rfl, by simp, by simp [last]⟩
    · obtain ⟨directive, before, after, rfl, short, shorter⟩ := ih last
      by_cases longer : directive.start.length < first.start.length
      · refine ⟨first, [], _, rfl, by simp, fun other member => ?_⟩
        rcases List.mem_append.mp member with early | late
        · exact Nat.lt_of_le_of_lt (short other early) longer
        · rcases List.mem_cons.mp late with rfl | behind
          · exact longer
          · exact Nat.lt_trans (shorter other behind) longer
      · refine ⟨directive, first :: before, after, rfl, fun other member => ?_, shorter⟩
        rcases List.mem_cons.mp member with rfl | early
        · exact Nat.le_of_not_lt longer
        · exact short other early

theorem foldl_prevailing_iff {directives : List LogDirective} {directive : LogDirective} :
    directives.foldl prevailing none = some directive ↔ Prevails directives directive := by
  refine ⟨fun h => ?_, foldl_prevailing_of_prevails⟩
  have some_there : directives ≠ [] := by
    rintro rfl
    exact absurd h (by simp)
  obtain ⟨chosen, prevails⟩ := exists_prevails some_there
  obtain rfl := Option.some.inj ((foldl_prevailing_of_prevails prevails).symm.trans h)
  exact prevails

/-- A directive decides about a target: it covers that, and is the last of the longest that do. -/
def Decides (directives : List LogDirective) (target : String) (directive : LogDirective) : Prop :=
  ∃ before after, directives = before ++ directive :: after ∧ directive.covers target = true ∧
    (∀ other ∈ before, other.covers target = true →
      other.start.length ≤ directive.start.length) ∧
    ∀ other ∈ after, other.covers target = true → other.start.length < directive.start.length

/-- Of the directives that cover a target, the last of the longest decides. -/
theorem deciding?_eq_some_iff {filter : LogFilter} {target : String} {directive : LogDirective} :
    filter.deciding? target = some directive ↔ Decides filter.directives target directive := by
  rw [deciding?, foldl_prevailing_iff]
  constructor
  · rintro ⟨before, after, split, short, shorter⟩
    obtain ⟨front, back, hsplit, rfl, hback⟩ := List.filter_eq_append_iff.mp split
    obtain ⟨skipped, rest, rfl, hskipped, hcovers, rfl⟩ := List.filter_eq_cons_iff.mp hback
    refine ⟨front ++ skipped, rest, by simp [hsplit], hcovers, ?_, ?_⟩
    · intro other member hother
      rcases List.mem_append.mp member with early | passed
      · exact short other (List.mem_filter.mpr ⟨early, hother⟩)
      · exact absurd hother (hskipped other passed)
    · intro other member hother
      exact shorter other (List.mem_filter.mpr ⟨member, hother⟩)
  · rintro ⟨before, after, split, hcovers, short, shorter⟩
    refine ⟨before.filter (·.covers target), after.filter (·.covers target), ?_, ?_, ?_⟩
    · simp [split, hcovers]
    · intro other member
      obtain ⟨early, hother⟩ := List.mem_filter.mp member
      exact short other early hother
    · intro other member
      obtain ⟨late, hother⟩ := List.mem_filter.mp member
      exact shorter other late hother

/-! ### Records that pass -/

/-- A record passes by the level of the directive that decides, and by a stretch of its message that
the pattern describes. -/
theorem admits_iff {filter : LogFilter} {target : String} {record : LogRecord} :
    filter.admits target record = true ↔
      (∃ directive, Decides filter.directives target directive ∧
        directive.limit.admits record.level = true) ∧
      ∀ pattern, filter.pattern = some pattern →
        ∃ start stop, start ≤ record.message.toList.length ∧
          pattern.Describes record.message.toList start stop := by
  simp only [admits, Bool.and_eq_true, Option.any_eq_true, deciding?_eq_some_iff,
    Option.all_eq_true, Pattern.occurs_iff]

/-- What passes at one level passes at every more serious one. -/
theorem admits_of_moreSerious {filter : LogFilter} {target message : String}
    {level serious : LogLevel} (h : serious.verbosity ≤ level.verbosity)
    (passes : filter.admits target ⟨level, message⟩ = true) :
    filter.admits target ⟨serious, message⟩ = true := by
  obtain ⟨⟨directive, decides, hlimit⟩, hpattern⟩ := admits_iff.mp passes
  refine admits_iff.mpr ⟨⟨directive, decides, ?_⟩, hpattern⟩
  cases hl : directive.limit with
  | off => simp [hl, LogLimit.admits] at hlimit
  | upTo limit =>
    simp only [hl, LogLimit.admits, decide_eq_true_eq] at hlimit ⊢
    exact Nat.le_trans h hlimit

/-! ### Filters with a word -/

/-- A filter without a slash has no pattern. -/
theorem read_of_no_slash {parts : List Char} (h : '/' ∉ parts) :
    read parts = (⟨orErrors (readDirectives (parts.splitOn ',')).1, none⟩,
      (readDirectives (parts.splitOn ',')).2) := by
  simp only [read, List.splitOn_eq_singleton h]

/-- A plain word behind a slash is the pattern, and the directives are read as without it. -/
theorem read_withWord {parts word : List Char} (noSlash : '/' ∉ parts) (single : '/' ∉ word)
    (plain : ∀ c ∈ word, c ∉ Pattern.signs)
    (small : Pattern.stateWeight * Text.extent word ≤ Pattern.weightLimit) :
    read (parts ++ '/' :: word) =
      ({ (read parts).1 with pattern := some (Pattern.verbatim word) }, (read parts).2) := by
  have pieces : (parts ++ '/' :: word).splitOn '/' = [parts, word] := by
    rw [List.splitOn_append_cons_self_of_not_mem noSlash, List.splitOn_eq_singleton single]
  rw [read_of_no_slash noSlash]
  simp only [read, pieces, Pattern.read_of_plain plain small]

/-- A plain word behind a slash lets through, of what would pass, the records whose messages hold
the word. -/
theorem admits_withWord {parts word : List Char} (noSlash : '/' ∉ parts) (single : '/' ∉ word)
    (plain : ∀ c ∈ word, c ∉ Pattern.signs)
    (small : Pattern.stateWeight * Text.extent word ≤ Pattern.weightLimit) (target : String)
    (record : LogRecord) :
    (read (parts ++ '/' :: word)).1.admits target record =
      ((read parts).1.admits target record && Text.occurs word record.message.toList) := by
  rw [read_withWord noSlash single plain small, read_of_no_slash noSlash]
  simp [admits, deciding?, Pattern.occurs_verbatim]

end Shaderbox.LogFilter
