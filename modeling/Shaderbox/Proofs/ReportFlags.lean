import Shaderbox.Shader.Include

/-!
# What a report tells about a whole expansion

Two findings are about a whole expansion and not about one place in a file: that the budget ran out,
and that the text was cut. Each is told by a report exactly when it happened.
-/

namespace Shaderbox

/-- Whether a directive of the walk met an empty budget. -/
def Walk.refuses (walk : Walk) : Bool :=
  walk.events.any IncludeEvent.isRefusal

namespace ExpansionReport

variable (front back : List Finding) (files : List Path)

theorem budgetExhausted_append :
    budgetExhausted ⟨front ++ back, files⟩ =
      (budgetExhausted ⟨front, files⟩ || budgetExhausted ⟨back, files⟩) :=
  List.any_append

theorem truncated_append :
    truncated ⟨front ++ back, files⟩ = (truncated ⟨front, files⟩ || truncated ⟨back, files⟩) :=
  List.any_append

variable (events : List IncludeEvent)

/-- No single event tells that the budget ran out. -/
theorem budgetExhausted_events :
    budgetExhausted ⟨events.filterMap IncludeEvent.finding?, files⟩ = false := by
  refine List.any_eq_false.mpr fun finding hfinding => ?_
  obtain ⟨event, -, hevent⟩ := List.mem_filterMap.mp hfinding
  cases event <;> cases hevent <;> exact Bool.false_ne_true

/-- No single event tells that text was cut. -/
theorem truncated_events :
    truncated ⟨events.filterMap IncludeEvent.finding?, files⟩ = false := by
  refine List.any_eq_false.mpr fun finding hfinding => ?_
  obtain ⟨event, -, hevent⟩ := List.mem_filterMap.mp hfinding
  cases event <;> cases hevent <;> exact Bool.false_ne_true

end ExpansionReport

namespace Expansion

variable (path top : Path) (walk : Walk) (limit : Nat)

theorem budgetExhausted_ofWalk : (ofWalk top walk).report.budgetExhausted = walk.refuses := by
  unfold ofWalk
  rw [ExpansionReport.budgetExhausted_append, ExpansionReport.budgetExhausted_events,
    Bool.false_or]
  change ExpansionReport.budgetExhausted ⟨if walk.refuses then _ else _, _⟩ = walk.refuses
  cases walk.refuses <;> rfl

theorem truncated_ofWalk : (ofWalk top walk).report.truncated = false := by
  unfold ofWalk
  rw [ExpansionReport.truncated_append, ExpansionReport.truncated_events, Bool.false_or]
  split <;> rfl

/-- A cut does not change whether the budget ran out. -/
theorem budgetExhausted_capped (expansion : Expansion) :
    (expansion.capped path limit).report.budgetExhausted = expansion.report.budgetExhausted := by
  unfold capped cut
  split
  · rfl
  · exact (ExpansionReport.budgetExhausted_append _ _ _).trans (Bool.or_false _)

/-- A text that was not cut before is reported as cut when it is longer than the limit. -/
theorem truncated_capped {expansion : Expansion} (h : expansion.report.truncated = false) :
    (expansion.capped path limit).report.truncated = true ↔
      limit < expansion.text.utf8ByteSize := by
  unfold capped cut
  split
  · rename_i hfits
    rw [h]
    exact iff_of_false Bool.false_ne_true (Nat.not_lt.mpr hfits)
  · rename_i hlong
    refine iff_of_true ?_ (Nat.lt_of_not_le hlong)
    exact (ExpansionReport.truncated_append _ _ _).trans (Bool.or_true _)

/-- A cut leaves the files that were read. -/
theorem files_capped (expansion : Expansion) :
    (expansion.capped path limit).report.files = expansion.report.files := by
  unfold capped cut
  split <;> rfl

/-- A text within the limit is not cut. -/
theorem capped_eq_self {expansion : Expansion} (h : expansion.text.utf8ByteSize ≤ limit) :
    expansion.capped path limit = expansion :=
  if_pos h

end Expansion

end Shaderbox
