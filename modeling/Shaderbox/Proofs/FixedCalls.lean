import Shaderbox.Proofs.DeviceTrace
import Shaderbox.Graphics.Native

/-!
# Programs that make the same calls whatever they are answered

Most of what is drawn in a frame does not depend on any answer of the device: the calls are settled
beforehand, in number and order. Such a program is described by the list of its calls, and programs
in sequence by one list behind the other. Carried out on the native library, it makes the raw calls
that these become, which are as settled.
-/

namespace Shaderbox

open Interaction

variable {G : Interface} {α β : Type}

/-- Whether a program makes just those calls on the device, whatever it is answered, and writes log
records at most besides. It then comes to a result, or aborts for the given cause. -/
inductive Issues : Interaction (Effects G) α → List G.Request → Option Abort → Prop where
  | done (result : α) : Issues (.done result) [] none
  | abort (cause : Abort) : Issues (.abort cause) [] (some cause)
  | graphics {call : G.Request} {resume : G.Answer call → Interaction (Effects G) α}
      {calls : List G.Request} {ending : Option Abort}
      (h : ∀ answer, Issues (resume answer) calls ending) :
      Issues (.ask (.graphics call) resume) (call :: calls) ending
  | log {record : LogRecord} {resume : Unit → Interaction (Effects G) α}
      {calls : List G.Request} {ending : Option Abort} (h : Issues (resume ()) calls ending) :
      Issues (.ask (.log record) resume) calls ending

/-- Whether an outcome is an abort for the given cause, or a result if there is none. -/
def EndsBy (ending : Option Abort) (outcome : Except Abort α) : Prop :=
  match ending with
  | none => ∃ result, outcome = .ok result
  | some cause => outcome = .error cause

section Rules

variable {program : Interaction (Effects G) α} {next : α → Interaction (Effects G) β}
  {calls rest : List G.Request} {ending : Option Abort}

/-- Programs in sequence make the calls of the first and then those of the second. -/
theorem Issues.bind (h : Issues program calls none)
    (hnext : ∀ result, Issues (next result) rest ending) :
    Issues (program.bind next) (calls ++ rest) ending := by
  generalize hnone : (none : Option Abort) = first at h
  induction h with
  | done result => exact hnext result
  | abort => contradiction
  | graphics _ ih => exact .graphics fun answer => ih answer hnone
  | log _ ih => exact .log (ih hnone)

/-- Behind an abort nothing more is done. -/
theorem Issues.bind_abort {cause : Abort} (h : Issues program calls (some cause)) :
    Issues (program.bind next) calls (some cause) := by
  generalize hcause : some cause = first at h
  induction h with
  | done => contradiction
  | abort cause' => exact .abort cause'
  | graphics _ ih => exact .graphics fun answer => ih answer hcause
  | log _ ih => exact .log (ih hcause)

theorem Issues.congr {other : List G.Request} (h : Issues program calls ending)
    (hcalls : calls = other) : Issues program other ending :=
  hcalls ▸ h

theorem issues_graphics (call : GraphicsCall) : Issues (Action.graphics call) [call] none :=
  .graphics fun answer => .done answer

theorem issues_log (level : LogLevel) (message : String) :
    Issues (Action.log level message) [] none :=
  .log (.done ())

end Rules

section Runs

/-- The call on the device that an exchange is, if it is one, and its answer. -/
def Exchange.call? : Exchange (Effects G) → Option (Exchange G)
  | ⟨.graphics call, answer⟩ => some ⟨call, answer⟩
  | ⟨.window _, _⟩ => none
  | ⟨.log _, _⟩ => none
  | ⟨.observe _, _⟩ => none

/-- The calls on the device among exchanges, whichever interface it has, with their answers. -/
def callTrace (exchanges : List (Exchange (Effects G))) : List (Exchange G) :=
  exchanges.filterMap Exchange.call?

/-- On the graphics interface these are the calls that make up the trace on the device. -/
theorem deviceTrace_eq_callTrace (exchanges : List (Exchange (Effects Graphics))) :
    deviceTrace exchanges = callTrace exchanges := by
  refine congrArg (List.filterMap · exchanges) (funext fun exchange => ?_)
  obtain ⟨request, answer⟩ := exchange
  cases request <;> rfl

/-- A program with fixed calls makes them in every run, and ends as it must. -/
theorem Issues.yields {program : Interaction (Effects G) α} {calls : List G.Request}
    {ending : Option Abort} (h : Issues program calls ending)
    {exchanges : List (Exchange (Effects G))} {outcome : Except Abort α}
    (hyields : Yields program exchanges outcome) :
    (callTrace exchanges).map Exchange.request = calls ∧ EndsBy ending outcome := by
  induction h generalizing exchanges with
  | done result =>
    cases hyields
    exact ⟨rfl, result, rfl⟩
  | abort cause =>
    cases hyields
    exact ⟨rfl, rfl⟩
  | graphics _ ih =>
    cases hyields with
    | ask _ _ answer hrest =>
      obtain ⟨hcalls, hends⟩ := ih answer hrest
      exact ⟨congrArg _ hcalls, hends⟩
  | log _ ih =>
    cases hyields with
    | ask _ _ _ hrest =>
      obtain ⟨hcalls, hends⟩ := ih hrest
      exact ⟨hcalls, hends⟩

end Runs

section Native

/-- The raw calls that a call becomes. -/
def GraphicsCall.raw : GraphicsCall → List NativeCall
  | .createShader stage => [.createShader (NativeCode.stage stage)]
  | .shaderSource shader source => [.shaderSource shader.number source]
  | .compileShader shader => [.compileShader shader.number]
  | .compileStatus shader => [.getShader shader.number NativeCode.compileStatus]
  | .shaderLog shader => [.getShaderLog shader.number]
  | .deleteShader shader => [.deleteShader shader.number]
  | .createProgram => [.createProgram]
  | .attachShader program shader => [.attachShader program.number shader.number]
  | .linkProgram program => [.linkProgram program.number]
  | .linkStatus program => [.getProgram program.number NativeCode.linkStatus]
  | .programLog program => [.getProgramLog program.number]
  | .validateProgram program => [.validateProgram program.number]
  | .validateStatus program => [.getProgram program.number NativeCode.validateStatus]
  | .deleteProgram program => [.deleteProgram program.number]
  | .useProgram program => [.useProgram (program.elim 0 (·.number))]
  | .uniformLocation program name => [.getUniformLocation program.number name]
  | .setUniformSingle location value => [.uniformSingle location.number value]
  | .setUniformVec4 location value => [.uniformVec4 location.number value]
  | .setUniformMat4 location value => [.uniformMat4 location.number false value]
  | .createVertexArray => [.genVertexArray]
  | .bindVertexArray array => [.bindVertexArray (array.elim 0 (·.number))]
  | .deleteVertexArray array => [.deleteVertexArray array.number]
  | .drawLines first count => [.drawArrays NativeCode.lines first count]
  | .drawPoints first count => [.drawArrays NativeCode.points first count]
  | .setViewport width height => [.viewport 0 0 width height]
  | .setClearColor color => [.clearColor color]
  | .clear => [.clear (NativeCode.colorBuffer + NativeCode.depthBuffer)]
  | .setDepthTest true => [.enable NativeCode.depthTest]
  | .setDepthTest false => [.disable NativeCode.depthTest]
  | .setBlend .disabled => [.disable NativeCode.blend]
  | .setBlend .additive =>
    [.enable NativeCode.blend, .blendEquation NativeCode.add,
      .blendFunction NativeCode.sourceAlpha NativeCode.one]
  | .setBlend .alpha =>
    [.enable NativeCode.blend, .blendEquation NativeCode.add,
      .blendFunction NativeCode.sourceAlpha NativeCode.oneMinusSourceAlpha]
  | .enableProgramPointSize => [.enable NativeCode.programPointSize]
  | .lastError => [.getError]

/-- Whether a call asks for the location of a uniform. -/
def GraphicsCall.looksUp : GraphicsCall → Bool
  | .uniformLocation .. => true
  | _ => false

/-- Every call but one for a location becomes the same raw calls each time. A name that cannot be
handed to the library ends the program instead. -/
theorem issues_native {call : GraphicsCall} (hcall : call.looksUp = false) :
    Issues call.native call.raw none := by
  cases call with
  | uniformLocation => contradiction
  | setDepthTest enabled =>
    cases enabled <;> exact .graphics fun _ => .done _
  | setBlend mode =>
    cases mode with
    | disabled => exact .graphics fun _ => .done _
    | _ => exact .graphics fun _ => .graphics fun _ => .graphics fun _ => .done _
  | _ => exact .graphics fun _ => .done _

/-- A program with fixed calls has fixed raw calls. -/
theorem Issues.native {program : Action α} {calls : List GraphicsCall} {ending : Option Abort}
    (h : Issues program calls ending) (hcalls : ∀ call ∈ calls, call.looksUp = false) :
    Issues program.native (calls.flatMap GraphicsCall.raw) ending := by
  induction h with
  | done result => exact .done result
  | abort cause => exact .abort cause
  | graphics _ ih =>
    obtain ⟨hcall, hrest⟩ := List.forall_mem_cons.mp hcalls
    exact (issues_native hcall).bind fun answer => ih answer hrest
  | log _ ih => exact .log (ih hcalls)

end Native

end Shaderbox
