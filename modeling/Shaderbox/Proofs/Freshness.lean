import Mathlib.Data.Multiset.UnionInter
import Shaderbox.Proofs.SceneBuild

/-!
# Programs that stay as they were linked

A device hands out names that are not in use. As long as it does, no two living programs have the
same name, and a program is not disturbed by what is done with others: once it was linked, what the
device says about its uniforms stays right while other programs are built and deleted.
-/

namespace Shaderbox

variable {owned alive final own others left : Multiset DeviceObject} {object : DeviceObject}
  {past trace more since : List (Exchange Graphics)} {program : ProgramId}

/-- Whether every object that is created in a trace gets a name that is not in use, when the given
objects are alive at first. -/
def FreshFrom : Multiset DeviceObject → List (Exchange Graphics) → Prop
  | _, [] => True
  | alive, exchange :: rest =>
    (∀ object ∈ exchange.created, object ∉ alive) ∧
      FreshFrom (alive - exchange.request.deleted + exchange.created) rest

instance FreshFrom.instDecidable : (alive : Multiset DeviceObject) →
    (trace : List (Exchange Graphics)) → Decidable (FreshFrom alive trace)
  | _, [] => inferInstanceAs (Decidable True)
  | alive, exchange :: rest =>
    have := FreshFrom.instDecidable (alive - exchange.request.deleted + exchange.created) rest
    inferInstanceAs (Decidable (_ ∧ _))

/-- What goes for a trace goes for its beginning. -/
theorem FreshFrom.of_append (h : FreshFrom alive (trace ++ more)) : FreshFrom alive trace := by
  induction trace generalizing alive with
  | nil => trivial
  | cons exchange rest ih => exact ⟨h.1, ih h.2⟩

/-- What goes for a trace goes for its end, with the objects that are alive then. -/
theorem FreshFrom.behind (h : FreshFrom alive (trace ++ more))
    (hbetween : aliveAfter alive trace = some final) : FreshFrom final more := by
  induction trace generalizing alive with
  | nil =>
    obtain rfl := Option.some.inj hbetween
    exact h
  | cons exchange rest ih =>
    rw [aliveAfter] at hbetween
    split at hbetween
    · exact ih h.2 hbetween
    · contradiction

/-- What can be accounted for by some objects leaves the others as they are. -/
theorem aliveAfter_beside (h : aliveAfter own trace = some left)
    (others : Multiset DeviceObject) :
    aliveAfter (own + others) trace = some (left + others) := by
  induction trace generalizing own with
  | nil => exact congrArg some (congrArg (· + others) (Option.some.inj h))
  | cons exchange rest ih =>
    rw [aliveAfter] at h
    split at h
    · rename_i hnamed
      rw [aliveAfter_cons fun object hobject =>
          Multiset.mem_add.mpr (.inl (hnamed object hobject)),
        ← tsub_add_eq_add_tsub (exchange.request.deleted_le hnamed), add_right_comm]
      exact ih h
    · contradiction

/-- An exchange creates one object at most. -/
theorem Exchange.nodup_created (exchange : Exchange Graphics) : exchange.created.Nodup := by
  unfold Exchange.created
  split
  · exact Multiset.nodup_singleton _
  · exact Multiset.nodup_singleton _
  · exact Multiset.nodup_singleton _
  · exact Multiset.nodup_zero

/-- Names that differ at first keep differing. -/
theorem FreshFrom.nodup (h : FreshFrom alive trace) (halive : alive.Nodup)
    (haccount : aliveAfter alive trace = some final) : final.Nodup := by
  induction trace generalizing alive with
  | nil =>
    obtain rfl := Option.some.inj haccount
    exact halive
  | cons exchange rest ih =>
    rw [aliveAfter] at haccount
    split at haccount
    · refine ih h.2 (Multiset.nodup_add.mpr ⟨?_, exchange.nodup_created, ?_⟩) haccount
      · exact Multiset.nodup_of_le (Multiset.sub_le_self _ _) halive
      · refine Multiset.disjoint_right.mpr fun hcreated hkept => ?_
        exact h.1 _ hcreated (Multiset.mem_of_le (Multiset.sub_le_self _ _) hkept)
    · contradiction

/-- A trace that can be accounted for by some objects neither names nor creates any of the
others. -/
theorem FreshFrom.not_concerned (h : FreshFrom (own + others) trace)
    (haccount : aliveAfter own trace = some left) (hothers : object ∈ others)
    (hown : object ∉ own) :
    ∀ exchange ∈ trace, object ∉ exchange.request.named ∧ object ∉ exchange.created := by
  induction trace generalizing own with
  | nil => exact List.forall_mem_nil _
  | cons exchange rest ih =>
    rw [aliveAfter] at haccount
    split at haccount
    · rename_i hnamed
      have hcreated : object ∉ exchange.created := fun hobject =>
        h.1 object hobject (Multiset.mem_add.mpr (.inr hothers))
      have hrest : FreshFrom (own - exchange.request.deleted + exchange.created + others) rest := by
        rw [add_right_comm, tsub_add_eq_add_tsub (exchange.request.deleted_le hnamed)]
        exact h.2
      refine List.forall_mem_cons.mpr ⟨⟨fun hobject => hown (hnamed object hobject), hcreated⟩, ?_⟩
      refine ih hrest haccount fun hobject => ?_
      rcases Multiset.mem_add.mp hobject with hkept | hnew
      · exact hown (Multiset.mem_of_le (Multiset.sub_le_self _ _) hkept)
      · exact hcreated hnew
    · contradiction

/-- Whether an exchange makes a program anew, links it again or deletes it. -/
def Exchange.Disturbs (program : ProgramId) (exchange : Exchange Graphics) : Prop :=
  .program program ∈ exchange.created ∨ exchange.request = .linkProgram program ∨
    exchange.request = .deleteProgram program

theorem Exchange.not_disturbs_of_not_concerned {exchange : Exchange Graphics}
    (hnamed : .program program ∉ exchange.request.named)
    (hcreated : .program program ∉ exchange.created) : ¬ exchange.Disturbs program := by
  rintro (hprogram | hlink | hdelete)
  · exact hcreated hprogram
  · exact hnamed (by simp [hlink, GraphicsCall.named])
  · exact hnamed (by simp [hdelete, GraphicsCall.named])

/-- Whether a call leaves all programs as they are. -/
def GraphicsCall.keepsPrograms : GraphicsCall → Bool
  | .createProgram => false
  | .linkProgram _ => false
  | .deleteProgram _ => false
  | _ => true

theorem Exchange.not_disturbs {exchange : Exchange Graphics}
    (h : exchange.request.keepsPrograms = true) (program : ProgramId) :
    ¬ exchange.Disturbs program := by
  obtain ⟨call, answer⟩ := exchange
  rintro (hcreated | rfl | rfl)
  · cases call with
    | createProgram => contradiction
    | createShader => cases answer <;> simp [Exchange.created] at hcreated
    | createVertexArray => cases answer <;> simp [Exchange.created] at hcreated
    | _ => simp [Exchange.created] at hcreated
  · contradiction
  · contradiction

/-- Whether a program was linked in a trace that begins with some objects, what was exchanged since,
and that none of this disturbed the program if only names not in use were handed out. -/
structure LinkedSince (owned : Multiset DeviceObject) (past : List (Exchange Graphics))
    (program : ProgramId) (since : List (Exchange Graphics)) : Prop where
  linked : ∃ before, past = before ++ ⟨.linkProgram program, ()⟩ :: since
  undisturbed : FreshFrom owned past → ∀ exchange ∈ since, ¬ exchange.Disturbs program

namespace LinkedSince

/-- More may be exchanged if it does not disturb the program. -/
theorem append (h : LinkedSince owned past program since)
    (hmore : FreshFrom owned (past ++ more) → ∀ exchange ∈ more, ¬ exchange.Disturbs program) :
    LinkedSince owned (past ++ more) program (since ++ more) := by
  obtain ⟨before, hpast⟩ := h.linked
  refine ⟨⟨before, by rw [hpast]; simp⟩, fun hfresh exchange hexchange => ?_⟩
  rcases List.mem_append.mp hexchange with hsince | hlater
  · exact h.undisturbed hfresh.of_append exchange hsince
  · exact hmore hfresh exchange hlater

/-- Calls that leave all programs as they are do not disturb one. -/
theorem append_keeping (h : LinkedSince owned past program since)
    (hmore : ∀ exchange ∈ more, exchange.request.keepsPrograms = true) :
    LinkedSince owned (past ++ more) program (since ++ more) :=
  h.append fun _ exchange hexchange => Exchange.not_disturbs (hmore exchange hexchange) program

/-- What can be accounted for by other objects does not disturb a program. -/
theorem append_beside (h : LinkedSince owned past program since) (howned : owned.Nodup)
    (halive : aliveAfter owned past = some (own + others)) (hprogram : .program program ∈ others)
    (hmore : aliveAfter own more = some left) :
    LinkedSince owned (past ++ more) program (since ++ more) := by
  refine h.append fun hfresh exchange hexchange => ?_
  have hapart := (Multiset.nodup_add.mp (hfresh.of_append.nodup howned halive)).2.2
  obtain ⟨hnamed, hcreated⟩ := (hfresh.behind halive).not_concerned hmore hprogram
    (Multiset.disjoint_right.mp hapart hprogram) exchange hexchange
  exact Exchange.not_disturbs_of_not_concerned hnamed hcreated

end LinkedSince

/-- A program that was built was linked, and is not disturbed by the checks behind that. -/
theorem BuildsFrom.linkedSince {files : Files} {shaders : ShaderConfig} {sources : ProgramSources}
    {buffer : SourceBuffer} {build : ProgramBuild}
    (h : BuildsFrom files shaders sources buffer trace (.ok build))
    (owned : Multiset DeviceObject) (past : List (Exchange Graphics)) :
    ∃ since, LinkedSince owned (past ++ trace) build.program.id since := by
  obtain ⟨stages, -, hbuild⟩ := h
  cases hbuild with
  | built compiled finished =>
    obtain ⟨program, failure, valid⟩ := finished
    refine ⟨linkCheck program failure ++ [⟨.validateProgram program, ()⟩,
      ⟨.validateStatus program, valid⟩], ⟨past ++ compiled.flatMap CompiledStage.trace ++
        ⟨.createProgram, .ok program⟩ ::
          attachments program (compiled.map CompiledStage.shader), ?_⟩, fun _ => ?_⟩
    · simp [FinishedProgram.trace]
    · have hchecks : ∀ exchange ∈ linkCheck program failure ++
          [⟨.validateProgram program, ()⟩, ⟨.validateStatus program, valid⟩],
          exchange.request.keepsPrograms = true := by
        cases failure <;> simp [linkCheck, GraphicsCall.keepsPrograms]
      exact fun exchange hexchange => Exchange.not_disturbs (hchecks exchange hexchange) program

end Shaderbox
