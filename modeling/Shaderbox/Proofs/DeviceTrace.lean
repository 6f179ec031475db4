import Shaderbox.Effect

/-!
# What a program does to the device

Of all that a program exchanges with the world, only the calls on the graphics device and their
answers are kept here. A program ensures a specification if, whatever it is answered, it comes to a
result and its trace on the device and its result are as specified. There is one rule for each way
to make a step; log records leave nothing in the trace.
-/

namespace Shaderbox

open Interaction

namespace Interaction

variable {I : Interface} {α : Type}

/-- Whether a program gives a result whatever it is answered. -/
def NeverAborts (program : Interaction I α) : Prop :=
  ∀ exchanges cause, ¬ Yields program exchanges (.error cause)

/-- What is to be done on an abort does not matter to a program that never aborts. -/
theorem onAbort_eq_self {program : Interaction I α} (h : program.NeverAborts)
    (cleanUp : Interaction I Unit) : program.onAbort cleanUp = program := by
  induction program with
  | done result => rfl
  | abort cause => exact absurd (.abort cause) (h [] cause)
  | ask request resume ih =>
    refine congrArg (Interaction.ask request) (funext fun answer => ih answer ?_)
    intro exchanges cause hyields
    exact h _ cause (.ask request resume answer hyields)

/-- A program with a clean-up goes as it would without one, or it aborts in a way that releases what
it holds and the clean-up follows. -/
theorem yields_onAbort {program : Interaction I α} {cleanUp : Interaction I Unit}
    {exchanges : List (Exchange I)} {outcome : Except Abort α}
    (h : Yields (program.onAbort cleanUp) exchanges outcome) :
    (Yields program exchanges outcome ∧
        ∀ cause, outcome = .error cause → cause.releases = false) ∨
      ∃ front cause back, exchanges = front ++ back ∧ Yields program front (.error cause) ∧
        Yields (cleanUp.bind fun _ => .abort cause) back outcome := by
  induction program generalizing exchanges with
  | done result =>
    cases h
    exact .inl ⟨.done result, fun cause hcause => by contradiction⟩
  | abort cause =>
    rw [onAbort] at h
    split at h
    · exact .inr ⟨[], cause, exchanges, rfl, .abort cause, h⟩
    · rename_i hkept
      cases h
      refine .inl ⟨.abort cause, fun other hother => ?_⟩
      obtain rfl := Except.error.inj hother
      exact Bool.eq_false_iff.mpr hkept
  | ask request resume ih =>
    cases h with
    | ask _ _ answer hrest =>
      rcases ih answer hrest with ⟨hyields, hkept⟩ | ⟨front, cause, back, rfl, hyields, hcleanUp⟩
      · exact .inl ⟨.ask _ _ answer hyields, hkept⟩
      · exact .inr ⟨_ :: front, cause, back, rfl, .ask _ _ answer hyields, hcleanUp⟩

end Interaction

/-- The call on the device that an exchange is, if it is one, and its answer. -/
def Exchange.device? : Exchange (Effects Graphics) → Option (Exchange Graphics)
  | ⟨.graphics call, answer⟩ => some ⟨call, answer⟩
  | ⟨.window _, _⟩ => none
  | ⟨.log _, _⟩ => none
  | ⟨.observe _, _⟩ => none

/-- The calls on the device among exchanges, with their answers. -/
def deviceTrace (exchanges : List (Exchange (Effects Graphics))) : List (Exchange Graphics) :=
  exchanges.filterMap Exchange.device?

theorem deviceTrace_append (front back : List (Exchange (Effects Graphics))) :
    deviceTrace (front ++ back) = deviceTrace front ++ deviceTrace back :=
  List.filterMap_append

variable {α β : Type}

/-- Whether a program always comes to a result, with a trace and a result as specified. -/
def Ensures (program : Action α) (spec : List (Exchange Graphics) → α → Prop) : Prop :=
  ∀ exchanges outcome, Yields program exchanges outcome →
    ∃ result, outcome = .ok result ∧ spec (deviceTrace exchanges) result

variable {spec : List (Exchange Graphics) → α → Prop}

theorem Ensures.neverAborts {program : Action α} (h : Ensures program spec) :
    program.NeverAborts := by
  intro exchanges cause hyields
  obtain ⟨result, hresult, -⟩ := h _ _ hyields
  contradiction

/-- A run that has come to a result is as specified. -/
theorem Ensures.of_ok {program : Action α} (h : Ensures program spec)
    {exchanges : List (Exchange (Effects Graphics))} {result : α}
    (hyields : Yields program exchanges (.ok result)) : spec (deviceTrace exchanges) result := by
  obtain ⟨_, hresult, hspec⟩ := h _ _ hyields
  obtain rfl := Except.ok.inj hresult
  exact hspec

/-- A specification may be replaced by one that follows from it. -/
theorem Ensures.mono {program : Action α} {weaker : List (Exchange Graphics) → α → Prop}
    (h : Ensures program spec) (hweaker : ∀ trace result, spec trace result → weaker trace result) :
    Ensures program weaker := by
  intro exchanges outcome hyields
  obtain ⟨result, houtcome, hspec⟩ := h _ _ hyields
  exact ⟨result, houtcome, hweaker _ _ hspec⟩

theorem ensures_done {result : α} (h : spec [] result) : Ensures (.done result) spec := by
  intro exchanges outcome hyields
  cases hyields
  exact ⟨result, rfl, h⟩

/-- A call on the device comes first in the trace, whatever its answer. -/
theorem ensures_graphics_bind {call : GraphicsCall} {next : call.Answer → Action α}
    (h : ∀ answer, Ensures (next answer) fun rest result => spec (⟨call, answer⟩ :: rest) result) :
    Ensures ((Action.graphics call).bind next) spec := by
  intro exchanges outcome hyields
  cases hyields with
  | ask _ _ answer hrest => exact h answer _ _ hrest

/-- A log record leaves nothing in the trace. -/
theorem ensures_log_bind {level : LogLevel} {message : String} {next : Unit → Action α}
    (h : Ensures (next ()) spec) : Ensures ((Action.log level message).bind next) spec := by
  intro exchanges outcome hyields
  cases hyields with
  | ask _ _ answer hrest =>
    obtain ⟨result, houtcome, hspec⟩ := h _ _ hrest
    exact ⟨result, houtcome, hspec⟩

/-- Log records leave nothing in the trace. -/
theorem ensures_logAll_bind {records : List LogRecord} {next : Unit → Action α}
    (h : Ensures (next ()) spec) : Ensures ((Action.logAll records).bind next) spec := by
  induction records with
  | nil => exact h
  | cons record rest ih =>
    rw [Action.logAll, bind_assoc]
    exact ensures_log_bind ih

/-- A log record that is written on a condition leaves nothing in the trace. -/
theorem ensures_log_when {condition : Bool} {level : LogLevel} {message : String}
    {next : Unit → Action α} (h : Ensures (next ()) spec) :
    Ensures (if condition then (Action.log level message).bind next else next ()) spec := by
  cases condition with
  | true => exact ensures_log_bind h
  | false => exact h

/-- Of two programs in sequence the first leaves its trace first, and the second goes on from what
the first ensures. -/
theorem Ensures.bind {program : Action β} {next : β → Action α}
    {first : List (Exchange Graphics) → β → Prop} (h : Ensures program first)
    (hnext : ∀ trace result, first trace result →
      Ensures (next result) fun rest last => spec (trace ++ rest) last) :
    Ensures (program.bind next) spec := by
  intro exchanges outcome hyields
  rcases yields_bind_iff.mp hyields with
    ⟨cause, hfirst, -⟩ | ⟨front, result, back, rfl, hfirst, hrest⟩
  · exact absurd hfirst (h.neverAborts _ _)
  · rw [deviceTrace_append]
    exact hnext _ _ (h.of_ok hfirst) _ _ hrest

end Shaderbox
