import Shaderbox.Proofs.DeviceTrace

/-!
# Demands on every exchange of a program

An etiquette says what is demanded of an exchange, given those that came before it and those that
come after it; what is demanded of the latter must not be undone by going on. A program behaves,
behind some past, if all its exchanges are as demanded whatever is answered, and if past and course
together are as specified for its result, or for the cause of an abort. There is one rule for each
way to make a step.
-/

namespace Shaderbox

open Interaction

variable {I : Interface} {α β : Type}

/-- What is demanded of an exchange between those before it and those after it. -/
structure Etiquette (I : Interface) where
  Holds : List (Exchange I) → Exchange I → List (Exchange I) → Prop
  lasts : ∀ {past exchange back} (more : List (Exchange I)),
    Holds past exchange back → Holds past exchange (back ++ more)

variable {etiquette : Etiquette I} {past course front back : List (Exchange I)}

/-- Whether all exchanges behind some past are as demanded. -/
def Etiquette.Observed (etiquette : Etiquette I) :
    List (Exchange I) → List (Exchange I) → Prop
  | _, [] => True
  | past, exchange :: rest =>
    etiquette.Holds past exchange rest ∧ etiquette.Observed (past ++ [exchange]) rest

namespace Etiquette.Observed

/-- Each exchange is as demanded, wherever it is found. -/
theorem holds {exchange : Exchange I}
    (h : etiquette.Observed past (front ++ exchange :: back)) :
    etiquette.Holds (past ++ front) exchange back := by
  induction front generalizing past with
  | nil => simpa using h.1
  | cons first rest ih => simpa using ih h.2

/-- What is observed by one part and then by the next is observed by both. -/
theorem append (hfront : etiquette.Observed past front)
    (hback : etiquette.Observed (past ++ front) back) :
    etiquette.Observed past (front ++ back) := by
  induction front generalizing past with
  | nil => simpa using hback
  | cons exchange rest ih =>
    exact ⟨etiquette.lasts back hfront.1, ih hfront.2 (by simpa using hback)⟩

/-- Demands may be replaced by those that follow from them. -/
theorem mono {milder : Etiquette I} (h : etiquette.Observed past course)
    (hmilder : ∀ past exchange back,
      etiquette.Holds past exchange back → milder.Holds past exchange back) :
    milder.Observed past course := by
  induction course generalizing past with
  | nil => trivial
  | cons exchange rest ih => exact ⟨hmilder _ _ _ h.1, ih h.2⟩

end Etiquette.Observed

section Beginnings

variable {begins : List (Exchange I) → Prop}

/-- What the courses of a program begin with, those of a sequence begin with. -/
theorem begins_of_yields_bind (hlasts : ∀ course more, begins course → begins (course ++ more))
    {program : Interaction I α} {next : α → Interaction I β} {outcome : Except Abort β}
    (hprogram : ∀ course outcome, Yields program course outcome → begins course)
    (h : Yields (program.bind next) course outcome) : begins course := by
  rcases yields_bind_iff.mp h with ⟨cause, hfirst, -⟩ | ⟨front, result, back, rfl, hfirst, -⟩
  · exact hprogram _ _ hfirst
  · exact hlasts _ _ (hprogram _ _ hfirst)

/-- What the courses of a program begin with, they begin with when it is cleaned up behind it. -/
theorem begins_of_yields_onAbort (hlasts : ∀ course more, begins course → begins (course ++ more))
    {program : Interaction I α} {cleanUp : Interaction I Unit} {outcome : Except Abort α}
    (hprogram : ∀ course outcome, Yields program course outcome → begins course)
    (h : Yields (program.onAbort cleanUp) course outcome) : begins course := by
  rcases yields_onAbort h with ⟨hfirst, -⟩ | ⟨front, cause, back, rfl, hfirst, -⟩
  · exact hprogram _ _ hfirst
  · exact hlasts _ _ (hprogram _ _ hfirst)

end Beginnings

variable {after : α → List (Exchange I) → Prop} {broken : Abort → List (Exchange I) → Prop}

/-- Whether all that was exchanged when a program comes to an outcome is as specified. -/
def Concludes (after : α → List (Exchange I) → Prop) (broken : Abort → List (Exchange I) → Prop) :
    Except Abort α → List (Exchange I) → Prop
  | .ok result, past => after result past
  | .error cause, past => broken cause past

/-- Whether a program, behind some past, observes an etiquette and concludes as specified. -/
def Behaves (etiquette : Etiquette I) (past : List (Exchange I)) (program : Interaction I α)
    (after : α → List (Exchange I) → Prop) (broken : Abort → List (Exchange I) → Prop) : Prop :=
  ∀ course outcome, Yields program course outcome →
    etiquette.Observed past course ∧ Concludes after broken outcome (past ++ course)

theorem behaves_done {result : α} (h : after result past) :
    Behaves etiquette past (.done result) after broken := by
  intro course outcome hyields
  cases hyields
  exact ⟨trivial, by rwa [List.append_nil]⟩

theorem behaves_abort {cause : Abort} (h : broken cause past) :
    Behaves etiquette past (.abort cause) after broken := by
  intro course outcome hyields
  cases hyields
  exact ⟨trivial, by rwa [List.append_nil]⟩

/-- A request must be in order whatever is answered, with all that may come after it. -/
theorem behaves_ask {request : I.Request} {resume : I.Answer request → Interaction I α}
    (hrequest : ∀ answer course outcome, Yields (resume answer) course outcome →
      etiquette.Holds past ⟨request, answer⟩ course)
    (hresume : ∀ answer,
      Behaves etiquette (past ++ [⟨request, answer⟩]) (resume answer) after broken) :
    Behaves etiquette past (.ask request resume) after broken := by
  intro course outcome hyields
  cases hyields with
  | ask _ _ answer hrest =>
    obtain ⟨hobserved, hconcludes⟩ := hresume answer _ _ hrest
    refine ⟨⟨hrequest answer _ _ hrest, hobserved⟩, ?_⟩
    rwa [List.append_assoc] at hconcludes

namespace Behaves

/-- A specification may be replaced by one that follows from it. -/
theorem mono {program : Interaction I α} {weaker : α → List (Exchange I) → Prop}
    {others : Abort → List (Exchange I) → Prop}
    (h : Behaves etiquette past program after broken)
    (hafter : ∀ result past, after result past → weaker result past)
    (hbroken : ∀ cause past, broken cause past → others cause past) :
    Behaves etiquette past program weaker others := by
  intro course outcome hyields
  obtain ⟨hobserved, hconcludes⟩ := h _ _ hyields
  refine ⟨hobserved, ?_⟩
  cases outcome with
  | ok result => exact hafter _ _ hconcludes
  | error cause => exact hbroken _ _ hconcludes

/-- The second of two programs has all that the first one exchanged behind it. -/
theorem bind {program : Interaction I β} {next : β → Interaction I α}
    {between : β → List (Exchange I) → Prop} (h : Behaves etiquette past program between broken)
    (hnext : ∀ result middle, between result middle →
      Behaves etiquette middle (next result) after broken) :
    Behaves etiquette past (program.bind next) after broken := by
  intro course outcome hyields
  rcases yields_bind_iff.mp hyields with
    ⟨cause, hfirst, rfl⟩ | ⟨front, result, back, rfl, hfirst, hrest⟩
  · exact h _ _ hfirst
  · obtain ⟨hfront, hbetween⟩ := h _ _ hfirst
    obtain ⟨hback, hconcludes⟩ := hnext _ _ hbetween _ _ hrest
    refine ⟨hfront.append hback, ?_⟩
    rwa [List.append_assoc] at hconcludes

/-- On an abort that releases what a program holds the clean-up goes on from there. -/
theorem onAbort {program : Interaction I α} {cleanUp : Interaction I Unit}
    {before : Abort → List (Exchange I) → Prop}
    (h : Behaves etiquette past program after before)
    (hkept : ∀ cause middle, before cause middle → broken cause middle)
    (hcleanUp : ∀ cause middle, before cause middle →
      Behaves etiquette middle cleanUp (fun _ final => broken cause final) broken) :
    Behaves etiquette past (program.onAbort cleanUp) after broken := by
  intro course outcome hyields
  rcases yields_onAbort hyields with ⟨hprogram, -⟩ | ⟨front, cause, back, rfl, hprogram, hrest⟩
  · exact h.mono (fun _ _ hafter => hafter) hkept _ _ hprogram
  · obtain ⟨hfront, hbefore⟩ := h _ _ hprogram
    have hcleaned : Behaves etiquette (past ++ front) (cleanUp.bind fun _ => .abort cause)
        after broken :=
      (hcleanUp cause _ hbefore).bind fun _ _ hbroken => behaves_abort hbroken
    obtain ⟨hback, hconcludes⟩ := hcleaned _ _ hrest
    refine ⟨hfront.append hback, ?_⟩
    rwa [List.append_assoc] at hconcludes

end Behaves

end Shaderbox
