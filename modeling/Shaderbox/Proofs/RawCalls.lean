import Shaderbox.Proofs.FixedCalls

/-!
# Runs on the device and their raw runs

Each call on the device is carried out by fixed raw calls, and its answer is read off what they give
back. A run of raw calls is the translation of a run on the device when it is put together, in order
and from nothing else, of the raw calls of each call and of all that was exchanged with others.

A program that never asks for what cannot be handed to the native library has just the raw runs that
are translations of its runs on the device. What it was answered there can be read off the raw run.
-/

namespace Shaderbox

open Interaction

section Calls

/-- The raw calls that carry out a call, with what they give back when it is answered so. -/
def GraphicsCall.CarriedOut :
    (call : GraphicsCall) → call.Answer → List (Exchange Native) → Prop
  | .createShader stage, answer, raw =>
    ∃ number, raw = [⟨.createShader (NativeCode.stage stage), number⟩] ∧
      answer = NativeAction.created ShaderId.mk "Shader" number
  | .shaderSource shader source, _, raw => raw = [⟨.shaderSource shader.number source, ()⟩]
  | .compileShader shader, _, raw => raw = [⟨.compileShader shader.number, ()⟩]
  | .compileStatus shader, answer, raw =>
    ∃ status : Int, raw = [⟨.getShader shader.number NativeCode.compileStatus, status⟩] ∧
      answer = (status != 0)
  | .shaderLog shader, answer, raw => raw = [⟨.getShaderLog shader.number, answer⟩]
  | .deleteShader shader, _, raw => raw = [⟨.deleteShader shader.number, ()⟩]
  | .createProgram, answer, raw =>
    ∃ number, raw = [⟨.createProgram, number⟩] ∧
      answer = NativeAction.created ProgramId.mk "Program" number
  | .attachShader program shader, _, raw =>
    raw = [⟨.attachShader program.number shader.number, ()⟩]
  | .linkProgram program, _, raw => raw = [⟨.linkProgram program.number, ()⟩]
  | .linkStatus program, answer, raw =>
    ∃ status : Int, raw = [⟨.getProgram program.number NativeCode.linkStatus, status⟩] ∧
      answer = (status != 0)
  | .programLog program, answer, raw => raw = [⟨.getProgramLog program.number, answer⟩]
  | .validateProgram program, _, raw => raw = [⟨.validateProgram program.number, ()⟩]
  | .validateStatus program, answer, raw =>
    ∃ status : Int, raw = [⟨.getProgram program.number NativeCode.validateStatus, status⟩] ∧
      answer = (status != 0)
  | .deleteProgram program, _, raw => raw = [⟨.deleteProgram program.number, ()⟩]
  | .useProgram none, _, raw => raw = [⟨.useProgram 0, ()⟩]
  | .useProgram (some program), _, raw => raw = [⟨.useProgram program.number, ()⟩]
  | .uniformLocation program name, answer, raw =>
    name.contains '\x00' = false ∧
      ∃ location : Int, raw = [⟨.getUniformLocation program.number name, location⟩] ∧
        answer = location.toNat?.map UniformLocation.mk
  | .setUniformSingle location value, _, raw => raw = [⟨.uniformSingle location.number value, ()⟩]
  | .setUniformVec4 location value, _, raw => raw = [⟨.uniformVec4 location.number value, ()⟩]
  | .setUniformMat4 location value, _, raw =>
    raw = [⟨.uniformMat4 location.number false value, ()⟩]
  | .createVertexArray, answer, raw =>
    ∃ number, raw = [⟨.genVertexArray, number⟩] ∧
      answer = NativeAction.created VertexArrayId.mk "VertexArray" number
  | .bindVertexArray none, _, raw => raw = [⟨.bindVertexArray 0, ()⟩]
  | .bindVertexArray (some array), _, raw => raw = [⟨.bindVertexArray array.number, ()⟩]
  | .deleteVertexArray array, _, raw => raw = [⟨.deleteVertexArray array.number, ()⟩]
  | .drawLines first count, _, raw => raw = [⟨.drawArrays NativeCode.lines first count, ()⟩]
  | .drawPoints first count, _, raw => raw = [⟨.drawArrays NativeCode.points first count, ()⟩]
  | .setViewport width height, _, raw => raw = [⟨.viewport 0 0 width height, ()⟩]
  | .setClearColor color, _, raw => raw = [⟨.clearColor color, ()⟩]
  | .clear, _, raw => raw = [⟨.clear (NativeCode.colorBuffer + NativeCode.depthBuffer), ()⟩]
  | .setDepthTest true, _, raw => raw = [⟨.enable NativeCode.depthTest, ()⟩]
  | .setDepthTest false, _, raw => raw = [⟨.disable NativeCode.depthTest, ()⟩]
  | .setBlend .disabled, _, raw => raw = [⟨.disable NativeCode.blend, ()⟩]
  | .setBlend .additive, _, raw =>
    raw = [⟨.enable NativeCode.blend, ()⟩, ⟨.blendEquation NativeCode.add, ()⟩,
      ⟨.blendFunction NativeCode.sourceAlpha NativeCode.one, ()⟩]
  | .setBlend .alpha, _, raw =>
    raw = [⟨.enable NativeCode.blend, ()⟩, ⟨.blendEquation NativeCode.add, ()⟩,
      ⟨.blendFunction NativeCode.sourceAlpha NativeCode.oneMinusSourceAlpha, ()⟩]
  | .enableProgramPointSize, _, raw => raw = [⟨.enable NativeCode.programPointSize, ()⟩]
  | .lastError, answer, raw => raw = [⟨.getError, answer⟩]

/-- An exchange with the device as one with the world. -/
def Exchange.onDevice {G : Interface} (exchange : Exchange G) : Exchange (Effects G) :=
  ⟨.graphics exchange.request, exchange.answer⟩

/-- Whether a call can be handed to the native library, as a name that holds a zero character
cannot. -/
def GraphicsCall.crosses : GraphicsCall → Bool
  | .uniformLocation _ name => !name.contains '\x00'
  | _ => true

variable {α : Type} {call : GraphicsCall} {answer : call.Answer} {part : List (Exchange Native)}

/-- Raw calls that carry out a call make up one of its raw runs, with the answer read off them. -/
theorem GraphicsCall.CarriedOut.yields (h : call.CarriedOut answer part) :
    Yields call.native (part.map Exchange.onDevice) (.ok answer) := by
  cases call with
  | uniformLocation program name =>
    obtain ⟨hname, location, rfl, rfl⟩ := h
    rw [GraphicsCall.native, if_neg (Bool.eq_false_iff.mp hname)]
    exact .ask _ _ _ (.done _)
  | setBlend mode =>
    cases mode with
    | disabled =>
      obtain rfl := h
      exact .ask _ _ _ (.done _)
    | additive =>
      obtain rfl := h
      exact .ask _ _ _ (.ask _ _ _ (.ask _ _ _ (.done _)))
    | alpha =>
      obtain rfl := h
      exact .ask _ _ _ (.ask _ _ _ (.ask _ _ _ (.done _)))
  | setDepthTest enabled =>
    cases enabled <;> obtain rfl := h <;> exact .ask _ _ _ (.done _)
  | useProgram program =>
    cases program <;> obtain rfl := h <;> exact .ask _ _ _ (.done _)
  | bindVertexArray array =>
    cases array <;> obtain rfl := h <;> exact .ask _ _ _ (.done _)
  | _ =>
    -- One raw call, whose answer is handed on as it is or read in a fixed way.
    first
    | obtain rfl := h
      exact .ask _ _ _ (.done _)
    | obtain ⟨_, rfl, rfl⟩ := h
      exact .ask _ _ _ (.done _)

/-- All raw runs of a call that can be handed to the library carry it out. -/
theorem GraphicsCall.exists_carriedOut (hcall : call.crosses = true)
    {raw : List (Exchange (Effects Native))} {outcome : Except Abort call.Answer}
    (h : Yields call.native raw outcome) :
    ∃ answer part, outcome = .ok answer ∧ call.CarriedOut answer part ∧
      raw = part.map Exchange.onDevice := by
  cases call with
  | uniformLocation program name =>
    have hname : name.contains '\x00' = false := (Bool.not_eq_true' _).mp hcall
    rw [GraphicsCall.native, if_neg (Bool.eq_false_iff.mp hname)] at h
    cases h with
    | ask _ _ location hdone =>
      cases hdone
      exact ⟨_, _, rfl, ⟨hname, location, rfl, rfl⟩, rfl⟩
  | setBlend mode =>
    cases mode with
    | disabled =>
      cases h with
      | ask _ _ _ hdone =>
        cases hdone
        exact ⟨_, _, rfl, rfl, rfl⟩
    | _ =>
      cases h with
      | ask _ _ _ hsecond =>
        cases hsecond with
        | ask _ _ _ hthird =>
          cases hthird with
          | ask _ _ _ hdone =>
            cases hdone
            exact ⟨_, _, rfl, rfl, rfl⟩
  | setDepthTest enabled =>
    cases enabled <;> cases h with
    | ask _ _ _ hdone =>
      cases hdone
      exact ⟨_, _, rfl, rfl, rfl⟩
  | useProgram program =>
    cases program <;> cases h with
    | ask _ _ _ hdone =>
      cases hdone
      exact ⟨_, _, rfl, rfl, rfl⟩
  | bindVertexArray array =>
    cases array <;> cases h with
    | ask _ _ _ hdone =>
      cases hdone
      exact ⟨_, _, rfl, rfl, rfl⟩
  | _ =>
    cases h with
    | ask _ _ _ hdone =>
      cases hdone
      first
      | exact ⟨_, _, rfl, rfl, rfl⟩
      | exact ⟨_, _, rfl, ⟨_, rfl, rfl⟩, rfl⟩

/-- The raw calls that carry out a call are fixed by the call alone. -/
theorem GraphicsCall.CarriedOut.map_request (h : call.CarriedOut answer part) :
    part.map Exchange.request = call.raw := by
  cases call with
  | uniformLocation program name =>
    obtain ⟨-, location, rfl, -⟩ := h
    rfl
  | setBlend mode => cases mode <;> obtain rfl := h <;> rfl
  | setDepthTest enabled => cases enabled <;> obtain rfl := h <;> rfl
  | useProgram program => cases program <;> obtain rfl := h <;> rfl
  | bindVertexArray array => cases array <;> obtain rfl := h <;> rfl
  | _ =>
    first
    | obtain rfl := h
      rfl
    | obtain ⟨_, rfl, -⟩ := h
      rfl

/-- What raw calls give back settles the answer. -/
theorem GraphicsCall.CarriedOut.unique {other : call.Answer} (h : call.CarriedOut answer part)
    (hother : call.CarriedOut other part) : answer = other := by
  cases call with
  | uniformLocation program name =>
    obtain ⟨-, location, rfl, rfl⟩ := h
    obtain ⟨-, _, hlocation, rfl⟩ := hother
    cases hlocation
    rfl
  | _ =>
    first
    | rfl
    | obtain rfl := h
      cases hother
      rfl
    | obtain ⟨_, rfl, rfl⟩ := h
      obtain ⟨_, hraw, rfl⟩ := hother
      cases hraw
      rfl

end Calls

section Runs

/-- Whether raw exchanges are put together, in order, of the raw calls that carry out each call of a
run, and of all that the run exchanged with others. -/
inductive Translates :
    List (Exchange (Effects Graphics)) → List (Exchange (Effects Native)) → Prop where
  | nil : Translates [] []
  | call {call : GraphicsCall} {answer : call.Answer} {part : List (Exchange Native)}
      {exchanges : List (Exchange (Effects Graphics))} {raw : List (Exchange (Effects Native))} :
      call.CarriedOut answer part → Translates exchanges raw →
        Translates (⟨.graphics call, answer⟩ :: exchanges) (part.map Exchange.onDevice ++ raw)
  | window {call : WindowCall} {answer : call.Answer}
      {exchanges : List (Exchange (Effects Graphics))} {raw : List (Exchange (Effects Native))} :
      Translates exchanges raw →
        Translates (⟨.window call, answer⟩ :: exchanges) (⟨.window call, answer⟩ :: raw)
  | log {record : LogRecord} {exchanges : List (Exchange (Effects Graphics))}
      {raw : List (Exchange (Effects Native))} :
      Translates exchanges raw →
        Translates (⟨.log record, ()⟩ :: exchanges) (⟨.log record, ()⟩ :: raw)
  | observe {observation : Observation} {answer : observation.Answer}
      {exchanges : List (Exchange (Effects Graphics))} {raw : List (Exchange (Effects Native))} :
      Translates exchanges raw →
        Translates (⟨.observe observation, answer⟩ :: exchanges)
          (⟨.observe observation, answer⟩ :: raw)

/-- Whether a request can be handed over to the raw interface. -/
def Request.crosses : Request Graphics → Bool
  | .graphics call => call.crosses
  | _ => true

/-- Whether a program never asks for what cannot be handed over, whatever it is answered. -/
inductive Crosses {α : Type} : Action α → Prop where
  | done (result : α) : Crosses (.done result)
  | abort (cause : Abort) : Crosses (.abort cause)
  | ask {request : Request Graphics} {resume : request.Answer → Action α} :
      request.crosses = true → (∀ answer, Crosses (resume answer)) → Crosses (.ask request resume)

variable {α : Type} {program : Action α} {exchanges : List (Exchange (Effects Graphics))}
  {raw : List (Exchange (Effects Native))} {outcome : Except Abort α}

/-- A translation of a run is a raw run, and ends alike. -/
theorem Translates.yields (h : Translates exchanges raw) (hyields : Yields program exchanges outcome) :
    Yields program.native raw outcome := by
  induction h generalizing program with
  | nil =>
    cases hyields with
    | done result => exact .done result
    | abort cause => exact .abort cause
  | call hcarried _ ih =>
    cases hyields with
    | ask _ _ _ hrest =>
      exact yields_bind_iff.mpr (.inr ⟨_, _, _, rfl, hcarried.yields, ih hrest⟩)
  | window _ ih =>
    cases hyields with
    | ask _ _ _ hrest => exact .ask _ _ _ (ih hrest)
  | log _ ih =>
    cases hyields with
    | ask _ _ _ hrest => exact .ask _ _ _ (ih hrest)
  | observe _ ih =>
    cases hyields with
    | ask _ _ _ hrest => exact .ask _ _ _ (ih hrest)

/-- A raw run of a program that only asks for what can be handed over is a translation. -/
theorem Crosses.exists_translates (h : Crosses program) (hyields : Yields program.native raw outcome) :
    ∃ exchanges, Yields program exchanges outcome ∧ Translates exchanges raw := by
  induction h generalizing raw with
  | done result =>
    cases hyields
    exact ⟨[], .done result, .nil⟩
  | abort cause =>
    cases hyields
    exact ⟨[], .abort cause, .nil⟩
  | @ask request resume hrequest _ ih =>
    cases request with
    | graphics call =>
      rcases yields_bind_iff.mp hyields with
        ⟨cause, hcall, rfl⟩ | ⟨_, _, rest, rfl, hcall, hrest⟩
      · obtain ⟨_, _, houtcome, -⟩ := GraphicsCall.exists_carriedOut hrequest hcall
        contradiction
      · obtain ⟨answer, part, houtcome, hcarried, rfl⟩ :=
          GraphicsCall.exists_carriedOut hrequest hcall
        obtain rfl := Except.ok.inj houtcome
        obtain ⟨exchanges, hprogram, htranslates⟩ := ih _ hrest
        exact ⟨_, .ask _ _ _ hprogram, .call hcarried htranslates⟩
    | window call =>
      cases hyields with
      | ask _ _ answer hrest =>
        obtain ⟨exchanges, hprogram, htranslates⟩ := ih answer hrest
        exact ⟨⟨.window call, answer⟩ :: exchanges, .ask _ _ _ hprogram, .window htranslates⟩
    | log record =>
      cases hyields with
      | ask _ _ answer hrest =>
        obtain ⟨exchanges, hprogram, htranslates⟩ := ih answer hrest
        exact ⟨⟨.log record, ()⟩ :: exchanges, .ask _ _ _ hprogram, .log htranslates⟩
    | observe observation =>
      cases hyields with
      | ask _ _ answer hrest =>
        obtain ⟨exchanges, hprogram, htranslates⟩ := ih answer hrest
        exact ⟨⟨.observe observation, answer⟩ :: exchanges, .ask _ _ _ hprogram, .observe htranslates⟩

/-- In a translation the raw calls of each call follow those of the one before. -/
theorem Translates.map_request (h : Translates exchanges raw) :
    (callTrace raw).map Exchange.request =
      (deviceTrace exchanges).flatMap fun exchange => exchange.request.raw := by
  have honDevice : ∀ part : List (Exchange Native),
      callTrace (part.map Exchange.onDevice) = part := by
    intro part
    rw [callTrace, List.filterMap_map]
    exact List.filterMap_some
  induction h with
  | nil => rfl
  | @call call answer part exchanges raw hcarried _ ih =>
    have hsplit : callTrace (part.map Exchange.onDevice ++ raw) =
        callTrace (part.map Exchange.onDevice) ++ callTrace raw := List.filterMap_append
    rw [hsplit, honDevice, List.map_append, hcarried.map_request, ih]
    rfl
  | window _ ih => exact ih
  | log _ ih => exact ih
  | observe _ ih => exact ih

/-- The translation of a call comes first, and that of the rest follows. -/
theorem Translates.exists_carriedOut {call : GraphicsCall} {answer : call.Answer}
    (h : Translates (⟨.graphics call, answer⟩ :: exchanges) raw) :
    ∃ part rest, raw = part.map Exchange.onDevice ++ rest ∧ call.CarriedOut answer part ∧
      Translates exchanges rest := by
  cases h with
  | call hcarried hrest => exact ⟨_, _, rfl, hcarried, hrest⟩

theorem onDevice_injective {G : Interface} :
    Function.Injective (Exchange.onDevice : Exchange G → Exchange (Effects G)) := by
  rintro ⟨request, answer⟩ ⟨other, reply⟩ h
  cases h
  rfl

/-- A raw run tells what the program was answered, and how it ended. -/
theorem Translates.unique {others : List (Exchange (Effects Graphics))} {ending : Except Abort α}
    (h : Translates exchanges raw) (hyields : Yields program exchanges outcome)
    (hother : Translates others raw) (hending : Yields program others ending) :
    others = exchanges ∧ ending = outcome := by
  induction hyields generalizing raw others with
  | done result =>
    cases hending
    exact ⟨rfl, rfl⟩
  | abort cause =>
    cases hending
    exact ⟨rfl, rfl⟩
  | ask request resume answer _ ih =>
    cases hending with
    | ask _ _ reply hrest =>
      cases request with
      | graphics call =>
        obtain ⟨part, rest, rfl, hcarried, htranslates⟩ := h.exists_carriedOut
        obtain ⟨part', rest', hraw, hcarried', htranslates'⟩ := hother.exists_carriedOut
        have hlength : (part.map Exchange.onDevice).length =
            (part'.map Exchange.onDevice).length := by
          have hcalls := hcarried.map_request.trans hcarried'.map_request.symm
          simpa only [List.length_map] using congrArg List.length hcalls
        obtain ⟨hpart, rfl⟩ := List.append_inj hraw hlength
        obtain rfl := (List.map_inj_right fun _ _ h => onDevice_injective h).mp hpart
        obtain rfl := hcarried.unique hcarried'
        obtain ⟨rfl, rfl⟩ := ih htranslates htranslates' hrest
        exact ⟨rfl, rfl⟩
      | window call =>
        cases h with
        | window htranslates =>
          cases hother with
          | window htranslates' =>
            obtain ⟨rfl, rfl⟩ := ih htranslates htranslates' hrest
            exact ⟨rfl, rfl⟩
      | log record =>
        cases h with
        | log htranslates =>
          cases hother with
          | log htranslates' =>
            obtain ⟨rfl, rfl⟩ := ih htranslates htranslates' hrest
            exact ⟨rfl, rfl⟩
      | observe observation =>
        cases h with
        | observe htranslates =>
          cases hother with
          | observe htranslates' =>
            obtain ⟨rfl, rfl⟩ := ih htranslates htranslates' hrest
            exact ⟨rfl, rfl⟩

end Runs

end Shaderbox
