import Shaderbox.Proofs.Custody
import Shaderbox.Proofs.Outward

/-!
# The ledger of windows, contexts and objects

A run is followed with what it holds: a window, a surface and a context, and the objects that are
alive on the device. Every exchange has its place. The device is only called while the context is
current, objects are only named while they are alive, a context is only dropped when no object is
left, and a window only behind its surface and its context. At most one of each is held.

What is held at the start and in the end tells how often each was made and dropped, and where in
between the device was called.
-/

namespace Shaderbox

open Interaction

/-- How far a graphics context has come. -/
inductive ContextStage where
  | absent
  | pending
  | current
deriving DecidableEq

/-- What a run holds of the window system and of the device. -/
structure Holdings where
  window : Bool := false
  surface : Bool := false
  context : ContextStage := .absent
  objects : Multiset DeviceObject := 0

/-- Whether a call of the window system is in its place when so much is held. -/
def WindowCall.InPlace (held : Holdings) : (call : WindowCall) → call.Answer → Prop
  | .createWindow .., true => held.window = false
  | .createContext .., none => held.window = true ∧ held.context = .absent
  | .createSurface _, none => held.window = true ∧ held.surface = false
  | .makeCurrent, none => held.surface = true ∧ held.context = .pending
  | .setSwapInterval _, _ => held.context = .current
  | .graphicsVersion, _ => held.context = .current
  | .rendererName, _ => held.context = .current
  | .resizeSurface _, _ => held.surface = true ∧ held.context = .current
  | .swapBuffers, _ => held.surface = true ∧ held.context = .current
  | .dropSurface, _ => held.surface = true
  | .dropContext, _ => held.context ≠ .absent ∧ held.objects = 0
  | .dropWindow, _ => held.window = true ∧ held.surface = false ∧ held.context = .absent
  | _, _ => True

/-- What is held behind a call of the window system. -/
def Holdings.behindWindow (held : Holdings) : (call : WindowCall) → call.Answer → Holdings
  | .createWindow .., true => { held with window := true }
  | .createContext .., none => { held with context := .pending }
  | .createSurface _, none => { held with surface := true }
  | .makeCurrent, none => { held with context := .current }
  | .dropSurface, _ => { held with surface := false }
  | .dropContext, _ => { held with context := .absent }
  | .dropWindow, _ => { held with window := false }
  | _, _ => held

/-- Whether an exchange is in its place when so much is held. -/
def Exchange.InPlace (held : Holdings) : Exchange (Effects Graphics) → Prop
  | ⟨.graphics call, _⟩ => held.context = .current ∧ ∀ object ∈ call.named, object ∈ held.objects
  | ⟨.window call, answer⟩ => call.InPlace held answer
  | ⟨.log _, _⟩ => True
  | ⟨.observe _, _⟩ => True

/-- What is held behind an exchange. -/
def Holdings.behind (held : Holdings) : Exchange (Effects Graphics) → Holdings
  | ⟨.graphics call, answer⟩ =>
    { held with objects := held.objects - call.deleted + Exchange.created ⟨call, answer⟩ }
  | ⟨.window call, answer⟩ => held.behindWindow call answer
  | ⟨.log _, _⟩ => held
  | ⟨.observe _, _⟩ => held

/-- Whether all exchanges are in their places, and lead from the one holdings to the other. -/
def Leads : Holdings → List (Exchange (Effects Graphics)) → Holdings → Prop
  | held, [], final => final = held
  | held, exchange :: rest, final => exchange.InPlace held ∧ Leads (held.behind exchange) rest final

theorem leads_append {held final : Holdings} {front back : List (Exchange (Effects Graphics))} :
    Leads held (front ++ back) final ↔
      ∃ between, Leads held front between ∧ Leads between back final := by
  induction front generalizing held with
  | nil =>
    constructor
    · exact fun h => ⟨held, rfl, h⟩
    · rintro ⟨_, rfl, h⟩
      exact h
  | cons exchange rest ih =>
    constructor
    · rintro ⟨hplace, hrest⟩
      obtain ⟨between, hfront, hback⟩ := ih.mp hrest
      exact ⟨between, ⟨hplace, hfront⟩, hback⟩
    · rintro ⟨between, ⟨hplace, hfront⟩, hback⟩
      exact ⟨hplace, ih.mpr ⟨between, hfront, hback⟩⟩

section Readings

variable {held final : Holdings} {exchanges : List (Exchange (Effects Graphics))}

/-- The window system does not touch the objects of the device. -/
theorem Holdings.objects_behindWindow (held : Holdings) (call : WindowCall)
    (answer : call.Answer) : (held.behindWindow call answer).objects = held.objects := by
  unfold behindWindow
  split <;> rfl

/-- The ledger accounts for the objects of the device as their own account does. -/
theorem Leads.aliveAfter_eq (h : Leads held exchanges final) :
    aliveAfter held.objects (deviceTrace exchanges) = some final.objects := by
  induction exchanges generalizing held with
  | nil =>
    obtain rfl := h
    rfl
  | cons exchange rest ih =>
    obtain ⟨hplace, hrest⟩ := h
    obtain ⟨request, answer⟩ := exchange
    cases request with
    | graphics call =>
      change aliveAfter held.objects (⟨call, answer⟩ :: deviceTrace rest) = _
      rw [aliveAfter_cons hplace.2]
      exact ih hrest
    | window call =>
      change aliveAfter held.objects (deviceTrace rest) = _
      rw [← held.objects_behindWindow call answer]
      exact ih hrest
    | log record => exact ih hrest
    | observe observation => exact ih hrest

/-- What a run makes of the window system, and drops. -/
inductive Part where
  | window
  | surface
  | context

/-- Whether a part is held. -/
def Holdings.has (held : Holdings) : Part → Bool
  | .window => held.window
  | .surface => held.surface
  | .context => held.context ≠ .absent

/-- Whether a call of the window system makes a part. -/
def WindowCall.makes : Part → (call : WindowCall) → call.Answer → Bool
  | .window, .createWindow .., made => made
  | .surface, .createSurface _, failure => failure.isNone
  | .context, .createContext .., failure => failure.isNone
  | _, _, _ => false

/-- Whether a call of the window system drops a part. -/
def WindowCall.drops : Part → WindowCall → Bool
  | .window, .dropWindow => true
  | .surface, .dropSurface => true
  | .context, .dropContext => true
  | _, _ => false

/-- Whether an exchange makes a part. -/
def Exchange.makes (part : Part) : Exchange (Effects Graphics) → Bool
  | ⟨.window call, answer⟩ => call.makes part answer
  | _ => false

/-- Whether an exchange drops a part. -/
def Exchange.drops (part : Part) : Exchange (Effects Graphics) → Bool
  | ⟨.window call, _⟩ => call.drops part
  | _ => false

/-- A call that is in its place makes a part that is not held, or drops one that is, or leaves it as
it is. -/
theorem WindowCall.has_behindWindow {call : WindowCall} {answer : call.Answer}
    (h : call.InPlace held answer) (part : Part) :
    (held.has part).toNat + (call.makes part answer).toNat =
      ((held.behindWindow call answer).has part).toNat + (call.drops part).toNat := by
  obtain ⟨window, surface, context, objects⟩ := held
  cases call with
  | createWindow title width height =>
    cases answer with
    | false => cases part <;> rfl
    | true =>
      obtain rfl : window = false := h
      cases part <;> rfl
  | createContext config major minor =>
    cases answer with
    | some reason => cases part <;> rfl
    | none =>
      obtain ⟨-, rfl⟩ : window = true ∧ context = .absent := h
      cases part <;> rfl
  | createSurface config =>
    cases answer with
    | some reason => cases part <;> rfl
    | none =>
      obtain ⟨-, rfl⟩ : window = true ∧ surface = false := h
      cases part <;> rfl
  | makeCurrent =>
    cases answer with
    | some reason => cases part <;> rfl
    | none =>
      obtain ⟨-, rfl⟩ : surface = true ∧ context = .pending := h
      cases part <;> rfl
  | dropSurface =>
    obtain rfl : surface = true := h
    cases part <;> rfl
  | dropContext =>
    obtain ⟨hmade, -⟩ : context ≠ .absent ∧ objects = 0 := h
    cases part with
    | window => rfl
    | surface => rfl
    | context => simp [Holdings.has, hmade, makes, drops, Holdings.behindWindow]
  | dropWindow =>
    obtain ⟨rfl, -⟩ : window = true ∧ surface = false ∧ context = .absent := h
    cases part <;> rfl
  | _ => cases part <;> rfl

/-- Between two moments every part is made as often as it is dropped, but for what is held. -/
theorem Leads.has_eq (h : Leads held exchanges final) (part : Part) :
    (held.has part).toNat + exchanges.countP (Exchange.makes part) =
      (final.has part).toNat + exchanges.countP (Exchange.drops part) := by
  induction exchanges generalizing held with
  | nil =>
    obtain rfl := h
    rfl
  | cons exchange rest ih =>
    obtain ⟨hplace, hrest⟩ := h
    have hstep : (held.has part).toNat + (exchange.makes part).toNat =
        ((held.behind exchange).has part).toNat + (exchange.drops part).toNat := by
      obtain ⟨request, answer⟩ := exchange
      cases request with
      | graphics call => cases part <;> rfl
      | window call => exact WindowCall.has_behindWindow hplace part
      | log record => rfl
      | observe observation => rfl
    have htail := ih hrest
    have hcount (decides : Exchange (Effects Graphics) → Bool) :
        (exchange :: rest).countP decides = (decides exchange).toNat + rest.countP decides := by
      rw [List.countP_cons, Nat.add_comm]
      cases decides exchange <;> rfl
    rw [hcount, hcount]
    omega

/-- Whether an exchange makes the context current. -/
def Exchange.makesCurrent : Exchange (Effects Graphics) → Bool
  | ⟨.window .makeCurrent, none⟩ => true
  | _ => false

/-- A context is current behind a call that makes it so, or that leaves it so. -/
theorem WindowCall.current_behindWindow {call : WindowCall} {answer : call.Answer}
    (h : (held.behindWindow call answer).context = .current) :
    Exchange.makesCurrent ⟨.window call, answer⟩ = true ∨
      held.context = .current ∧ call.drops .context = false := by
  cases call with
  | createWindow title width height => cases answer <;> exact .inr ⟨h, rfl⟩
  | createContext config major minor =>
    cases answer with
    | some reason => exact .inr ⟨h, rfl⟩
    | none => contradiction
  | createSurface config => cases answer <;> exact .inr ⟨h, rfl⟩
  | makeCurrent =>
    cases answer with
    | some reason => exact .inr ⟨h, rfl⟩
    | none => exact .inl rfl
  | dropContext => contradiction
  | _ => exact .inr ⟨h, rfl⟩

/-- A context that is current was made so, and was not dropped since. -/
theorem Leads.exists_makesCurrent (h : Leads held exchanges final)
    (hfinal : final.context = .current) :
    (held.context = .current ∧ ∀ exchange ∈ exchanges, exchange.drops .context = false) ∨
      ∃ front made back, exchanges = front ++ made :: back ∧ made.makesCurrent = true ∧
        ∀ exchange ∈ back, exchange.drops .context = false := by
  induction exchanges generalizing held with
  | nil =>
    obtain rfl := h
    exact .inl ⟨hfinal, by simp⟩
  | cons exchange rest ih =>
    obtain ⟨hplace, hrest⟩ := h
    rcases ih hrest with ⟨hcurrent, hkept⟩ | ⟨front, made, back, rfl, hmade, hkept⟩
    · have hstep : exchange.makesCurrent = true ∨
          held.context = .current ∧ exchange.drops .context = false := by
        obtain ⟨request, answer⟩ := exchange
        cases request with
        | graphics call => exact .inr ⟨hcurrent, rfl⟩
        | window call => exact WindowCall.current_behindWindow hcurrent
        | log record => exact .inr ⟨hcurrent, rfl⟩
        | observe observation => exact .inr ⟨hcurrent, rfl⟩
      rcases hstep with hmade | ⟨hbefore, hleft⟩
      · exact .inr ⟨[], exchange, rest, rfl, hmade, hkept⟩
      · exact .inl ⟨hbefore, List.forall_mem_cons.mpr ⟨hleft, hkept⟩⟩
    · exact .inr ⟨exchange :: front, made, back, rfl, hmade, hkept⟩

/-- No object is left when a context is dropped. -/
theorem Exchange.objects_of_drops {exchange : Exchange (Effects Graphics)}
    (h : exchange.InPlace held) (hdrops : exchange.drops .context = true) : held.objects = 0 := by
  obtain ⟨request, answer⟩ := exchange
  cases request with
  | window call =>
    cases call with
    | dropContext => exact h.2
    | _ => contradiction
  | _ => contradiction

/-- Neither a surface nor a context is left when a window is dropped. -/
theorem Exchange.has_of_drops {exchange : Exchange (Effects Graphics)}
    (h : exchange.InPlace held) (hdrops : exchange.drops .window = true) {part : Part}
    (hpart : part ≠ .window) : held.has part = false := by
  obtain ⟨request, answer⟩ := exchange
  cases request with
  | window call =>
    cases call with
    | dropWindow =>
      obtain ⟨-, hsurface, hcontext⟩ := h
      cases part with
      | window => contradiction
      | surface => exact hsurface
      | context => simp [Holdings.has, hcontext]
    | _ => contradiction
  | _ => contradiction

/-- What a run comes to that begins and ends with nothing held: the device is called only while a
context is current; all objects are deleted exactly once, and before their context is dropped; and
windows, surfaces and contexts are dropped exactly once each, at most one of each is held at a time,
and a window is dropped only when it has neither a surface nor a context any more. -/
structure ReleasesEverything (exchanges : List (Exchange (Effects Graphics))) : Prop where
  current : ∀ front call answer back, exchanges = front ++ ⟨.graphics call, answer⟩ :: back →
    ∃ before made between, front = before ++ made :: between ∧ made.makesCurrent = true ∧
      ∀ exchange ∈ between, exchange.drops .context = false
  alive : aliveAfter 0 (deviceTrace exchanges) = some 0
  deleted : deletedIn (deviceTrace exchanges) = createdIn (deviceTrace exchanges)
  context : ∀ front dropped back, exchanges = front ++ dropped :: back →
    dropped.drops .context = true → aliveAfter 0 (deviceTrace front) = some 0
  window : ∀ front dropped back, exchanges = front ++ dropped :: back →
    dropped.drops .window = true →
      ∀ part, part ≠ .window →
        front.countP (Exchange.makes part) = front.countP (Exchange.drops part)
  once : ∀ part, exchanges.countP (Exchange.makes part) = exchanges.countP (Exchange.drops part)
  single : ∀ part front back, exchanges = front ++ back →
    front.countP (Exchange.drops part) ≤ front.countP (Exchange.makes part) ∧
      front.countP (Exchange.makes part) ≤ front.countP (Exchange.drops part) + 1

theorem Leads.releasesEverything (h : Leads {} exchanges {}) : ReleasesEverything exchanges := by
  have hpoint (front : List (Exchange (Effects Graphics))) (exchange : Exchange (Effects Graphics))
      (back : List (Exchange (Effects Graphics))) (hsplit : exchanges = front ++ exchange :: back) :
      ∃ held, Leads {} front held ∧ exchange.InPlace held := by
    rw [hsplit] at h
    obtain ⟨held, hfront, hplace, -⟩ := leads_append.mp h
    exact ⟨held, hfront, hplace⟩
  have hbalance := final_add_deletedIn h.aliveAfter_eq
  rw [zero_add, zero_add] at hbalance
  refine ⟨?_, h.aliveAfter_eq, hbalance, ?_, ?_, ?_, ?_⟩
  · intro front call answer back hsplit
    obtain ⟨held, hfront, hcurrent, -⟩ := hpoint _ _ _ hsplit
    exact (hfront.exists_makesCurrent hcurrent).resolve_left fun hstart => by cases hstart.1
  · intro front dropped back hsplit hdrops
    obtain ⟨held, hfront, hplace⟩ := hpoint _ _ _ hsplit
    have halive := hfront.aliveAfter_eq
    rw [Exchange.objects_of_drops hplace hdrops] at halive
    exact halive
  · intro front dropped back hsplit hdrops part hpart
    obtain ⟨held, hfront, hplace⟩ := hpoint _ _ _ hsplit
    have hcount := hfront.has_eq part
    rw [Exchange.has_of_drops hplace hdrops hpart] at hcount
    cases part <;> simpa [Holdings.has] using hcount
  · intro part
    have hcount := h.has_eq part
    omega
  · intro part front back hsplit
    rw [hsplit] at h
    obtain ⟨held, hfront, -⟩ := leads_append.mp h
    have hcount := hfront.has_eq part
    have hnothing : (Holdings.has {} part).toNat = 0 := by cases part <;> rfl
    have hatMost := Bool.toNat_le (held.has part)
    omega

end Readings

end Shaderbox
