import Shaderbox.Proofs.FixedCalls

/-!
# The settings that draw calls depend on

A draw call uses the program and the vertex array that are bound, and the depth test and the
blending as they are set. What is asked for can be read off the raw calls: of each setting it is
what the last call on it says.

What a device makes of the calls is not part of the program. A device is a parameter here, and of
its behavior only what is documented is used. A call that is in order gives what it asks for, the
use of a program that was not linked is refused, and only linking and deleting change what can be
bound. So while nothing is linked or deleted, a device has the settings that are asked for, but for
the programs that it refuses.
-/

namespace Shaderbox

/-- What decides how a draw call comes out. Zero stands for nothing bound. -/
structure DrawSettings where
  program : Nat
  vertexArray : Nat
  depthTest : Bool
  blending : Bool
  equation : Nat
  source : Nat
  destination : Nat
deriving DecidableEq

/-- Whether a raw call draws. -/
def NativeCall.draws : NativeCall → Bool
  | .drawArrays .. => true
  | _ => false

namespace DrawSettings

/-- Turn a capability on or off. -/
def switch (capability : Nat) (on : Bool) (settings : DrawSettings) : DrawSettings :=
  if capability = NativeCode.depthTest then { settings with depthTest := on }
  else if capability = NativeCode.blend then { settings with blending := on }
  else settings

/-- What is asked for behind a raw call. -/
def asked (settings : DrawSettings) : NativeCall → DrawSettings
  | .useProgram program => { settings with program }
  | .bindVertexArray vertexArray => { settings with vertexArray }
  | .enable capability => settings.switch capability true
  | .disable capability => settings.switch capability false
  | .blendEquation equation => { settings with equation }
  | .blendFunction source destination => { settings with source, destination }
  | _ => settings

/-- What is asked for behind raw calls. -/
def askedBy (settings : DrawSettings) (calls : List NativeCall) : DrawSettings :=
  calls.foldl asked settings

/-- The draw calls among raw calls, each with what is asked for in front of it. -/
def draws : DrawSettings → List NativeCall → List (DrawSettings × NativeCall)
  | _, [] => []
  | settings, call :: rest =>
    if call.draws then (settings, call) :: (settings.asked call).draws rest
    else (settings.asked call).draws rest

theorem askedBy_append (settings : DrawSettings) (front back : List NativeCall) :
    settings.askedBy (front ++ back) = (settings.askedBy front).askedBy back :=
  List.foldl_append

theorem draws_append (settings : DrawSettings) (front back : List NativeCall) :
    settings.draws (front ++ back) =
      settings.draws front ++ (settings.askedBy front).draws back := by
  induction front generalizing settings with
  | nil => rfl
  | cons call front ih =>
    rw [List.cons_append, draws, draws, ih]
    split <;> rfl

end DrawSettings

/-- Whether a raw call has an effect where just those programs can be used. -/
def NativeCall.heeded (usable : Nat → Bool) : NativeCall → Bool
  | .useProgram program => program == 0 || usable program
  | _ => true

/-- A draw call always has an effect. -/
theorem NativeCall.draws_of_not_heeded {usable : Nat → Bool} {call : NativeCall}
    (h : call.heeded usable = false) : call.draws = false := by
  cases call <;> first | rfl | contradiction

/-- Where all programs can be used, every call has an effect. -/
theorem filter_heeded_all (calls : List NativeCall) :
    calls.filter (NativeCall.heeded fun _ => true) = calls := by
  refine List.filter_eq_self.mpr fun call _ => ?_
  cases call <;> simp [NativeCall.heeded]

/-- The program in use behind a call for one, where just those can be used. -/
def programInUse (usable : Nat → Bool) (program before : Nat) : Nat :=
  if program == 0 || usable program then program else before

theorem programInUse_of_usable {usable : Nat → Bool} {program : Nat} (h : usable program = true)
    (before : Nat) : programInUse usable program before = program := by
  rw [programInUse, h, Bool.or_true, if_pos rfl]

/-- What calls of the graphics interface ask for when they are carried out on the native library and
just those programs can be used, in front of each draw call and in the end. -/
structure Asks (usable : Nat → Bool) (settings : DrawSettings) (calls : List GraphicsCall)
    (draws : List (DrawSettings × NativeCall)) (final : DrawSettings) : Prop where
  draws_eq : settings.draws ((calls.flatMap GraphicsCall.raw).filter (NativeCall.heeded usable)) =
    draws
  askedBy_eq :
    settings.askedBy ((calls.flatMap GraphicsCall.raw).filter (NativeCall.heeded usable)) = final

section Rules

variable {usable : Nat → Bool} {settings next final : DrawSettings}
  {calls rest : List GraphicsCall} {draws more : List (DrawSettings × NativeCall)}

theorem asks_nil : Asks usable settings [] [] settings := ⟨rfl, rfl⟩

/-- Where all programs can be used, calls ask for the same as their raw calls. -/
theorem Asks.unrefused (h : Asks (fun _ => true) settings calls draws final) :
    settings.draws (calls.flatMap GraphicsCall.raw) = draws ∧
      settings.askedBy (calls.flatMap GraphicsCall.raw) = final := by
  have hdraws := h.draws_eq
  have hfinal := h.askedBy_eq
  rw [filter_heeded_all] at hdraws hfinal
  exact ⟨hdraws, hfinal⟩

/-- Calls behind others begin with what those ask for. -/
theorem Asks.append (h : Asks usable settings calls draws next)
    (hrest : Asks usable next rest more final) :
    Asks usable settings (calls ++ rest) (draws ++ more) final := by
  constructor
  · rw [List.flatMap_append, List.filter_append, DrawSettings.draws_append, h.draws_eq,
      h.askedBy_eq, hrest.draws_eq]
  · rw [List.flatMap_append, List.filter_append, DrawSettings.askedBy_append, h.askedBy_eq,
      hrest.askedBy_eq]

theorem asks_clear : Asks usable settings [.clear] [] settings := ⟨rfl, rfl⟩

theorem asks_lastError : Asks usable settings [.lastError] [] settings := ⟨rfl, rfl⟩

theorem asks_useProgram (program : ProgramId) :
    Asks usable settings [.useProgram (some program)] []
      { settings with program := programInUse usable program.number settings.program } := by
  constructor <;>
    cases hheeded : program.number == 0 || usable program.number <;>
      simp [GraphicsCall.raw, NativeCall.heeded, hheeded, DrawSettings.draws, NativeCall.draws,
        DrawSettings.askedBy, DrawSettings.asked, programInUse]

theorem asks_useNone :
    Asks usable settings [.useProgram none] [] { settings with program := 0 } := ⟨rfl, rfl⟩

theorem asks_bindVertexArray (array : VertexArrayId) :
    Asks usable settings [.bindVertexArray (some array)] []
      { settings with vertexArray := array.number } := ⟨rfl, rfl⟩

theorem asks_bindNone :
    Asks usable settings [.bindVertexArray none] [] { settings with vertexArray := 0 } := ⟨rfl, rfl⟩

theorem asks_setDepthTest (enabled : Bool) :
    Asks usable settings [.setDepthTest enabled] [] { settings with depthTest := enabled } := by
  cases enabled <;> exact ⟨rfl, rfl⟩

/-- Without blending its functions stay as they were. -/
theorem asks_blendDisabled :
    Asks usable settings [.setBlend .disabled] [] { settings with blending := false } := ⟨rfl, rfl⟩

theorem asks_blendAdditive :
    Asks usable settings [.setBlend .additive] []
      { settings with
        blending := true
        equation := NativeCode.add
        source := NativeCode.sourceAlpha
        destination := NativeCode.one } := ⟨rfl, rfl⟩

theorem asks_blendAlpha :
    Asks usable settings [.setBlend .alpha] []
      { settings with
        blending := true
        equation := NativeCode.add
        source := NativeCode.sourceAlpha
        destination := NativeCode.oneMinusSourceAlpha } := ⟨rfl, rfl⟩

theorem asks_drawLines (first count : Int) :
    Asks usable settings [.drawLines first count]
      [(settings, .drawArrays NativeCode.lines first count)] settings := ⟨rfl, rfl⟩

end Rules

/-- A device, as far as draw calls depend on it: what becomes of a state in a raw call, the settings
in force in a state, the programs that can be used there, and the vertex arrays that can be
bound. -/
structure DrawDevice (State : Type) where
  step : State → Exchange Native → State
  settings : State → DrawSettings
  /-- The programs that exist and were linked without failure. -/
  usable : State → Nat → Bool
  /-- The vertex arrays that exist. -/
  bindable : State → Nat → Bool

namespace DrawDevice

variable {State : Type} (device : DrawDevice State)

/-- Whether a raw call is sure to be in order. Of the codes for blending only those are considered
that occur in frames. -/
def grants (state : State) : NativeCall → Bool
  | .useProgram program => program == 0 || device.usable state program
  | .bindVertexArray array => array == 0 || device.bindable state array
  | .blendEquation equation => equation == NativeCode.add
  | .blendFunction source destination =>
    source == NativeCode.sourceAlpha &&
      (destination == NativeCode.one || destination == NativeCode.oneMinusSourceAlpha)
  | .deleteVertexArray _ => false
  | _ => true

/-- What is documented of a device. -/
structure Lawful : Prop where
  /-- A call that is in order gives what it asks for, and all other settings stay. -/
  granted : ∀ state exchange, device.grants state exchange.request = true →
    device.settings (device.step state exchange) = (device.settings state).asked exchange.request
  /-- The use of a program that was not linked is an error, and such a call changes nothing. -/
  refused : ∀ state program answer, program ≠ 0 → device.usable state program = false →
    device.settings (device.step state ⟨.useProgram program, answer⟩) = device.settings state
  /-- Whether a program can be used changes only when it is linked or deleted. -/
  usable_step : ∀ state exchange program, exchange.request ≠ .linkProgram program →
    exchange.request ≠ .deleteProgram program →
    device.usable (device.step state exchange) program = device.usable state program
  /-- A vertex array can be bound until it is deleted. -/
  bindable_step : ∀ state exchange array, device.bindable state array = true →
    exchange.request ≠ .deleteVertexArray array →
    device.bindable (device.step state exchange) array = true

/-- What becomes of a state in raw calls. -/
def after (state : State) (trace : List (Exchange Native)) : State :=
  trace.foldl device.step state

/-- The draw calls among raw calls, each with the settings in force. -/
def drawn : State → List (Exchange Native) → List (DrawSettings × NativeCall)
  | _, [] => []
  | state, exchange :: rest =>
    if exchange.request.draws then
      (device.settings state, exchange.request) :: drawn (device.step state exchange) rest
    else drawn (device.step state exchange) rest

/-- Whether a raw call neither links nor deletes what can be bound, and can only be refused for the
program that it is to use. -/
def Steady (state : State) : NativeCall → Prop
  | .linkProgram _ => False
  | .deleteProgram _ => False
  | .useProgram _ => True
  | call => device.grants state call = true

variable {device} {state : State}

/-- A steady call leaves alone what can be bound. -/
theorem Steady.spares {call : NativeCall} (h : device.Steady state call) :
    (∀ program, call ≠ .linkProgram program ∧ call ≠ .deleteProgram program) ∧
      ∀ array, call ≠ .deleteVertexArray array := by
  refine ⟨fun program => ⟨?_, ?_⟩, fun array => ?_⟩ <;>
  · rintro rfl
    cases h

namespace Lawful

/-- A steady call gives what it asks for, if it is heeded. -/
theorem settings_step (h : device.Lawful) {exchange : Exchange Native}
    (hsteady : device.Steady state exchange.request) :
    device.settings (device.step state exchange) =
      if exchange.request.heeded (device.usable state) then
        (device.settings state).asked exchange.request
      else device.settings state := by
  obtain ⟨call, answer⟩ := exchange
  cases call with
  | useProgram program =>
    split
    · rename_i hheeded
      exact h.granted state _ hheeded
    · rename_i hheeded
      obtain ⟨hzero, husable⟩ := Bool.or_eq_false_iff.mp ((Bool.not_eq_true _).mp hheeded)
      exact h.refused state program answer (beq_eq_false_iff_ne.mp hzero) husable
  | linkProgram => exact hsteady.elim
  | deleteProgram => exact hsteady.elim
  | _ => exact (h.granted state _ hsteady).trans (if_pos rfl).symm

/-- In a steady call the same programs stay usable. -/
theorem usable_eq (h : device.Lawful) {exchange : Exchange Native}
    (hsteady : device.Steady state exchange.request) :
    device.usable (device.step state exchange) = device.usable state := by
  refine funext fun program => ?_
  obtain ⟨hlinks, hdeletes⟩ := hsteady.spares.1 program
  exact h.usable_step state exchange program hlinks hdeletes

/-- In a steady call vertex arrays stay bindable. -/
theorem bindable_of_steady (h : device.Lawful) {exchange : Exchange Native}
    (hsteady : device.Steady state exchange.request) {array : Nat}
    (hbindable : device.bindable state array = true) :
    device.bindable (device.step state exchange) array = true :=
  h.bindable_step state exchange array hbindable (hsteady.spares.2 array)

/-- Behind a steady call the same calls are steady. -/
theorem steady_step (h : device.Lawful) {exchange : Exchange Native}
    (hsteady : device.Steady state exchange.request) {call : NativeCall}
    (hcall : device.Steady state call) : device.Steady (device.step state exchange) call := by
  cases call with
  | bindVertexArray array =>
    rcases Bool.or_eq_true_iff.mp hcall with hzero | hbindable
    · exact Bool.or_eq_true_iff.mpr (.inl hzero)
    · exact Bool.or_eq_true_iff.mpr (.inr (h.bindable_of_steady hsteady hbindable))
  | _ => exact hcall

/-- Through steady calls a device has the settings that the calls ask for that it heeds. -/
theorem follows (h : device.Lawful) {trace : List (Exchange Native)}
    (hsteady : ∀ exchange ∈ trace, device.Steady state exchange.request) :
    device.drawn state trace = (device.settings state).draws
        ((trace.map Exchange.request).filter (NativeCall.heeded (device.usable state))) ∧
      device.settings (device.after state trace) = (device.settings state).askedBy
        ((trace.map Exchange.request).filter (NativeCall.heeded (device.usable state))) := by
  induction trace generalizing state with
  | nil => exact ⟨rfl, rfl⟩
  | cons exchange rest ih =>
    obtain ⟨hfirst, hrest⟩ := List.forall_mem_cons.mp hsteady
    obtain ⟨hdrawn, hafter⟩ := ih fun other hother => h.steady_step hfirst (hrest other hother)
    rw [h.usable_eq hfirst, h.settings_step hfirst] at hdrawn hafter
    rw [List.map_cons, List.filter_cons, drawn, hdrawn, after, List.foldl_cons]
    refine ⟨?_, hafter.trans ?_⟩
    · cases hheeded : exchange.request.heeded (device.usable state) with
      | true => rfl
      | false =>
        rw [if_neg (by simp [NativeCall.draws_of_not_heeded hheeded])]
        rfl
    · cases exchange.request.heeded (device.usable state) with
      | true => rfl
      | false => rfl

variable {trace : List (Exchange Native)}

/-- A device draws and ends with what steady calls ask for. -/
theorem carriesOut (h : device.Lawful) {calls : List GraphicsCall}
    {draws : List (DrawSettings × NativeCall)} {final : DrawSettings}
    (hcalls : trace.map Exchange.request = calls.flatMap GraphicsCall.raw)
    (hsteady : ∀ exchange ∈ trace, device.Steady state exchange.request)
    (hasks : Asks (device.usable state) (device.settings state) calls draws final) :
    device.drawn state trace = draws ∧ device.settings (device.after state trace) = final := by
  obtain ⟨hdrawn, hafter⟩ := h.follows hsteady
  rw [hcalls] at hdrawn hafter
  exact ⟨hdrawn.trans hasks.draws_eq, hafter.trans hasks.askedBy_eq⟩

/-- Whether a program can be used stays as it is through calls that neither link nor delete it. -/
theorem usable_after (h : device.Lawful) {program : Nat}
    (hkept : ∀ exchange ∈ trace, exchange.request ≠ .linkProgram program ∧
      exchange.request ≠ .deleteProgram program) :
    device.usable (device.after state trace) program = device.usable state program := by
  induction trace generalizing state with
  | nil => rfl
  | cons exchange rest ih =>
    obtain ⟨⟨hlinks, hdeletes⟩, hrest⟩ := List.forall_mem_cons.mp hkept
    exact (ih hrest).trans (h.usable_step state exchange program hlinks hdeletes)

/-- A vertex array can be bound through calls that do not delete it. -/
theorem bindable_after (h : device.Lawful) {array : Nat}
    (hbindable : device.bindable state array = true)
    (hkept : ∀ exchange ∈ trace, exchange.request ≠ .deleteVertexArray array) :
    device.bindable (device.after state trace) array = true := by
  induction trace generalizing state with
  | nil => exact hbindable
  | cons exchange rest ih =>
    obtain ⟨hfirst, hrest⟩ := List.forall_mem_cons.mp hkept
    exact ih (h.bindable_step state exchange array hbindable hfirst) hrest

/-- Steady calls neither link nor delete a program. -/
theorem usable_after_steady (h : device.Lawful)
    (hsteady : ∀ exchange ∈ trace, device.Steady state exchange.request) :
    device.usable (device.after state trace) = device.usable state :=
  funext fun program => h.usable_after fun exchange hexchange =>
    (hsteady exchange hexchange).spares.1 program

/-- Steady calls delete no vertex array. -/
theorem bindable_after_steady (h : device.Lawful) {array : Nat}
    (hsteady : ∀ exchange ∈ trace, device.Steady state exchange.request)
    (hbindable : device.bindable state array = true) :
    device.bindable (device.after state trace) array = true :=
  h.bindable_after hbindable fun exchange hexchange => (hsteady exchange hexchange).spares.2 array

end Lawful

end DrawDevice

end Shaderbox
