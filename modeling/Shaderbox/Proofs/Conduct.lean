import Shaderbox.Proofs.Ledger

/-!
# Programs in the ledger

A program conducts itself, from what is held when it begins, if all its exchanges are in their
places whatever is answered; what is held then is as specified for the result, or for the cause of
an abort. There is one rule for each way to make a step. A program that keeps custody of objects and
asks nobody but the device and the log conducts itself wherever a context is current.
-/

namespace Shaderbox

open Interaction

variable {α β : Type} {held : Holdings} {after : α → Holdings → Prop}
  {aborted : Abort → Holdings → Prop}

/-- Whether what is held when a program comes to an outcome is as specified. -/
def Ends (after : α → Holdings → Prop) (aborted : Abort → Holdings → Prop) :
    Except Abort α → Holdings → Prop
  | .ok result, held => after result held
  | .error cause, held => aborted cause held

/-- Whether all that a program exchanges is in its place, and leads to holdings as specified. -/
def Conducts (held : Holdings) (program : Action α) (after : α → Holdings → Prop)
    (aborted : Abort → Holdings → Prop) : Prop :=
  ∀ exchanges outcome, Yields program exchanges outcome →
    ∃ final, Leads held exchanges final ∧ Ends after aborted outcome final

theorem conducts_done {result : α} (h : after result held) :
    Conducts held (.done result) after aborted := by
  intro exchanges outcome hyields
  cases hyields
  exact ⟨held, rfl, h⟩

theorem conducts_abort {cause : Abort} (h : aborted cause held) :
    Conducts held (.abort cause) after aborted := by
  intro exchanges outcome hyields
  cases hyields
  exact ⟨held, rfl, h⟩

/-- A specification may be replaced by one that follows from it. -/
theorem Conducts.mono {program : Action α} {weaker : α → Holdings → Prop}
    {others : Abort → Holdings → Prop} (h : Conducts held program after aborted)
    (hafter : ∀ result final, after result final → weaker result final)
    (haborted : ∀ cause final, aborted cause final → others cause final) :
    Conducts held program weaker others := by
  intro exchanges outcome hyields
  obtain ⟨final, hleads, hends⟩ := h _ _ hyields
  refine ⟨final, hleads, ?_⟩
  cases outcome with
  | ok result => exact hafter _ _ hends
  | error cause => exact haborted _ _ hends

/-- A call of the window system must be in its place, whatever is answered. -/
theorem conducts_window_bind {call : WindowCall} {next : call.Answer → Action α}
    (h : ∀ answer, call.InPlace held answer ∧
      Conducts (held.behindWindow call answer) (next answer) after aborted) :
    Conducts held ((Action.window call).bind next) after aborted := by
  intro exchanges outcome hyields
  cases hyields with
  | ask _ _ answer hrest =>
    obtain ⟨hplace, hnext⟩ := h answer
    obtain ⟨final, hleads, hends⟩ := hnext _ _ hrest
    exact ⟨final, ⟨hplace, hleads⟩, hends⟩

theorem conducts_log_bind {level : LogLevel} {message : String} {next : Unit → Action α}
    (h : Conducts held (next ()) after aborted) :
    Conducts held ((Action.log level message).bind next) after aborted := by
  intro exchanges outcome hyields
  cases hyields with
  | ask _ _ answer hrest =>
    obtain ⟨final, hleads, hends⟩ := h _ _ hrest
    exact ⟨final, ⟨trivial, hleads⟩, hends⟩

/-- The second of two programs begins with what the first one leaves. -/
theorem Conducts.bind {program : Action β} {next : β → Action α}
    {between : β → Holdings → Prop} (h : Conducts held program between aborted)
    (hnext : ∀ result middle, between result middle →
      Conducts middle (next result) after aborted) :
    Conducts held (program.bind next) after aborted := by
  intro exchanges outcome hyields
  rcases yields_bind_iff.mp hyields with
    ⟨cause, hfirst, rfl⟩ | ⟨front, result, back, rfl, hfirst, hrest⟩
  · exact h _ _ hfirst
  · obtain ⟨middle, hfront, hbetween⟩ := h _ _ hfirst
    obtain ⟨final, hback, hends⟩ := hnext result middle hbetween _ _ hrest
    exact ⟨final, leads_append.mpr ⟨middle, hfront, hback⟩, hends⟩

/-- What is known of all results of a program may be added to what is specified for them. -/
theorem Conducts.of_returns {program : Action α} {kind : α → Prop}
    (h : Conducts held program after aborted) (hkind : Returns program kind) :
    Conducts held program (fun result final => kind result ∧ after result final) aborted := by
  intro exchanges outcome hyields
  obtain ⟨final, hleads, hends⟩ := h _ _ hyields
  refine ⟨final, hleads, ?_⟩
  cases outcome with
  | ok result => exact ⟨hkind _ _ hyields, hends⟩
  | error cause => exact hends

/-- On an abort that releases what a program holds the clean-up goes on from there. -/
theorem Conducts.onAbort {program : Action α} {cleanUp : Action Unit}
    {before : Abort → Holdings → Prop} (h : Conducts held program after before)
    (hreleases : ∀ cause middle, before cause middle → cause.releases = true)
    (hcleanUp : ∀ cause middle, before cause middle →
      Conducts middle cleanUp (fun _ final => aborted cause final) aborted) :
    Conducts held (program.onAbort cleanUp) after aborted := by
  intro exchanges outcome hyields
  rcases yields_onAbort hyields with
    ⟨hprogram, hkept⟩ | ⟨front, cause, back, rfl, hprogram, hrest⟩
  · obtain ⟨final, hleads, hends⟩ := h _ _ hprogram
    cases outcome with
    | ok result => exact ⟨final, hleads, hends⟩
    | error cause =>
      have hreleased := hreleases cause final hends
      rw [hkept cause rfl] at hreleased
      contradiction
  · obtain ⟨middle, hfront, hbefore⟩ := h _ _ hprogram
    have hcleaned : Conducts middle (cleanUp.bind fun _ => .abort cause) after aborted :=
      (hcleanUp cause middle hbefore).bind fun _ _ hfinal => conducts_abort hfinal
    obtain ⟨final, hback, hends⟩ := hcleaned _ _ hrest
    exact ⟨final, leads_append.mpr ⟨middle, hfront, hback⟩, hends⟩

section Custody

/-- Where a context is current, what is done to the device is in its place if it can be accounted
for. -/
theorem leads_of_aliveAfter {exchanges : List (Exchange (Effects Graphics))}
    {objects : Multiset DeviceObject} (hcurrent : held.context = .current)
    (hquiet : outward exchanges = [])
    (halive : aliveAfter held.objects (deviceTrace exchanges) = some objects) :
    Leads held exchanges { held with objects } := by
  induction exchanges generalizing held with
  | nil =>
    obtain rfl := Option.some.inj halive
    rfl
  | cons exchange rest ih =>
    obtain ⟨request, answer⟩ := exchange
    cases request with
    | graphics call =>
      change aliveAfter held.objects (⟨call, answer⟩ :: deviceTrace rest) = _ at halive
      rw [aliveAfter] at halive
      split at halive
      · rename_i hnamed
        exact ⟨⟨hcurrent, hnamed⟩, ih hcurrent hquiet halive⟩
      · contradiction
    | window call => contradiction
    | log record => exact ⟨trivial, ih hcurrent hquiet halive⟩
    | observe observation => contradiction

/-- A program that keeps custody and asks nobody but the device and the log conducts itself where a
context is current, and turns the objects that are held. -/
theorem Custody.conducts {program : Action α} {before : Multiset DeviceObject}
    {left : α → Multiset DeviceObject} (h : Custody before program left) (hquiet : Quiet program)
    (hcurrent : held.context = .current) (hobjects : held.objects = before) :
    Conducts held program (fun result final => final = { held with objects := left result })
      aborted := by
  intro exchanges outcome hyields
  obtain ⟨result, rfl, haccount⟩ := h _ _ hyields
  have halive := haccount 0
  rw [add_zero, add_zero, ← hobjects] at halive
  exact ⟨_, leads_of_aliveAfter hcurrent (hquiet _ _ hyields) halive, rfl⟩

end Custody

end Shaderbox
