import Shaderbox.Graphics.Handle
import Shaderbox.Graphics.Native
import Shaderbox.Shader.Include

/-!
# Transcripts

A transcript lists what a program did to the world, each request that leaves a trace as a name with
arguments. Queries leave none. An answer that belongs to the record, such as the number of a new
object, is among the arguments.
-/

namespace Shaderbox

/-- An argument of a record. -/
inductive Datum where
  | null
  | flag (value : Bool)
  | number (value : Int)
  | name (text : String)
  /-- A text that can be long. -/
  | text (text : String)
  | single (value : Float32)
  | double (value : Float)
  | list (items : List Datum)
  | fields (items : List (String × Datum))

/-- One request as it is written down. -/
structure Record where
  name : String
  arguments : List Datum

namespace Datum

/-- A number of something, or nothing. -/
def number? (value : Option Nat) : Datum :=
  value.elim .null fun value => .number value

/-- The components of a vector. -/
def vec3 (v : Vec3) : Datum := .list [.single v.x, .single v.y, .single v.z]

/-- The components of a color. -/
def vec4 (v : Vec4) : Datum := .list (v.toList.map .single)

/-- The elements of a matrix, column after column. -/
def mat4 (m : Mat4) : Datum := .list (m.toList.map .single)

/-- The two sides of a size. -/
def size (size : PixelSize) : Datum := .list [.number size.width, .number size.height]

end Datum

namespace BlendMode

/-- The modes with their names in transcripts. -/
def named : List (String × BlendMode) :=
  [("Disabled", .disabled), ("Additive", .additive), ("Alpha", .alpha)]

/-- The mode with a given name. -/
def ofName? (name : String) : Option BlendMode := named.lookup name

/-- The mode's name in transcripts. -/
def name (mode : BlendMode) : String := ((named.find? (·.2 = mode)).map (·.1)).getD ""

end BlendMode

open Datum in
/-- How a call of the graphics interface is written down. A refused creation is not. -/
def GraphicsCall.record? : (call : GraphicsCall) → call.Answer → Option Record
  | .createShader stage, .ok shader =>
    some ⟨"create_shader", [.name stage.label, number shader.number]⟩
  | .createShader _, .error _ => none
  | .shaderSource shader source, _ => some ⟨"shader_source", [number shader.number, .text source]⟩
  | .compileShader shader, _ => some ⟨"compile_shader", [number shader.number]⟩
  | .compileStatus _, _ => none
  | .shaderLog _, _ => none
  | .deleteShader shader, _ => some ⟨"delete_shader", [number shader.number]⟩
  | .createProgram, .ok program => some ⟨"create_program", [number program.number]⟩
  | .createProgram, .error _ => none
  | .attachShader program shader, _ =>
    some ⟨"attach_shader", [number program.number, number shader.number]⟩
  | .linkProgram program, _ => some ⟨"link_program", [number program.number]⟩
  | .linkStatus _, _ => none
  | .programLog _, _ => none
  | .validateProgram program, _ => some ⟨"validate_program", [number program.number]⟩
  | .validateStatus _, _ => none
  | .deleteProgram program, _ => some ⟨"delete_program", [number program.number]⟩
  | .useProgram program, _ => some ⟨"use_program", [number? (program.map (·.number))]⟩
  | .uniformLocation program uniform, location =>
    some ⟨"uniform_location",
      [number program.number, .name uniform, number? (location.map (·.number))]⟩
  | .setUniformSingle location value, _ =>
    some ⟨"set_uniform_f32", [number location.number, .single value]⟩
  | .setUniformVec4 location value, _ =>
    some ⟨"set_uniform_vec4", [number location.number, vec4 value]⟩
  | .setUniformMat4 location value, _ =>
    some ⟨"set_uniform_mat4", [number location.number, mat4 value]⟩
  | .createVertexArray, .ok array => some ⟨"create_vertex_array", [number array.number]⟩
  | .createVertexArray, .error _ => none
  | .bindVertexArray array, _ => some ⟨"bind_vertex_array", [number? (array.map (·.number))]⟩
  | .deleteVertexArray array, _ => some ⟨"delete_vertex_array", [number array.number]⟩
  | .drawLines first count, _ => some ⟨"draw_lines", [number first, number count]⟩
  | .drawPoints first count, _ => some ⟨"draw_points", [number first, number count]⟩
  | .setViewport width height, _ => some ⟨"set_viewport", [number width, number height]⟩
  | .setClearColor color, _ => some ⟨"set_clear_color", [vec4 color]⟩
  | .clear, _ => some ⟨"clear", []⟩
  | .setDepthTest enabled, _ => some ⟨"set_depth_test", [.flag enabled]⟩
  | .setBlend mode, _ => some ⟨"set_blend", [.name mode.name]⟩
  | .enableProgramPointSize, _ => some ⟨"enable_program_point_size", []⟩
  | .lastError, _ => none

open Datum in
/-- How a raw call is written down. A refused creation is, with zero for the object. -/
def NativeCall.record? : (call : NativeCall) → call.Answer → Option Record
  | .createShader kind, (shader : Nat) => some ⟨"CreateShader", [number kind, number shader]⟩
  | .shaderSource shader source, _ =>
    some ⟨"ShaderSource", [number shader, number 1, .text source]⟩
  | .compileShader shader, _ => some ⟨"CompileShader", [number shader]⟩
  | .getShader .., _ => none
  | .getShaderLog _, _ => none
  | .deleteShader shader, _ => some ⟨"DeleteShader", [number shader]⟩
  | .createProgram, (program : Nat) => some ⟨"CreateProgram", [number program]⟩
  | .attachShader program shader, _ => some ⟨"AttachShader", [number program, number shader]⟩
  | .linkProgram program, _ => some ⟨"LinkProgram", [number program]⟩
  | .getProgram .., _ => none
  | .getProgramLog _, _ => none
  | .validateProgram program, _ => some ⟨"ValidateProgram", [number program]⟩
  | .deleteProgram program, _ => some ⟨"DeleteProgram", [number program]⟩
  | .useProgram program, _ => some ⟨"UseProgram", [number program]⟩
  | .getUniformLocation program uniform, location =>
    some ⟨"GetUniformLocation", [number program, .name uniform, number location]⟩
  | .uniformSingle location value, _ => some ⟨"Uniform1f", [number location, .single value]⟩
  | .uniformVec4 location value, _ =>
    some ⟨"Uniform4fv", [number location, number 1, vec4 value]⟩
  | .uniformMat4 location transposed value, _ =>
    some ⟨"UniformMatrix4fv",
      [number location, number 1, number (if transposed then 1 else 0), mat4 value]⟩
  | .genVertexArray, (array : Nat) => some ⟨"GenVertexArrays", [number 1, number array]⟩
  | .bindVertexArray array, _ => some ⟨"BindVertexArray", [number array]⟩
  | .deleteVertexArray array, _ => some ⟨"DeleteVertexArrays", [number 1, number array]⟩
  | .drawArrays mode first count, _ =>
    some ⟨"DrawArrays", [number mode, number first, number count]⟩
  | .viewport x y width height, _ =>
    some ⟨"Viewport", [number x, number y, number width, number height]⟩
  | .clearColor color, _ => some ⟨"ClearColor", color.toList.map .single⟩
  | .clear mask, _ => some ⟨"Clear", [number mask]⟩
  | .enable capability, _ => some ⟨"Enable", [number capability]⟩
  | .disable capability, _ => some ⟨"Disable", [number capability]⟩
  | .blendEquation mode, _ => some ⟨"BlendEquation", [number mode]⟩
  | .blendFunction source destination, _ =>
    some ⟨"BlendFunc", [number source, number destination]⟩
  | .getError, _ => none

open Datum in
/-- How a request to the window system is written down. Steps on the way to a window are when they
succeed; setting the swap interval and swapping buffers always are. -/
def WindowCall.record? : (call : WindowCall) → call.Answer → Option Record
  | .findConfigs alphaSize samples, _ =>
    some ⟨"find_configs", [number alphaSize, number? samples]⟩
  | .createWindow title width height, true =>
    some ⟨"create_window", [.name title, .list [.double width, .double height]]⟩
  | .createContext config major minor, none =>
    some ⟨"create_context",
      [number config, .list [number major, number minor], .name "Core", .flag true]⟩
  | .createSurface config, none => some ⟨"create_surface", [number config]⟩
  | .makeCurrent, none => some ⟨"make_current", []⟩
  | .setSwapInterval waits, _ => some ⟨"set_swap_interval", [number (if waits then 1 else 0)]⟩
  | .resizeSurface size, _ =>
    some ⟨"surface_resize", [number size.width, number size.height]⟩
  | .swapBuffers, _ => some ⟨"swap_buffers", []⟩
  | .requestRedraw, _ => some ⟨"request_redraw", []⟩
  | .announcePresent, _ => some ⟨"pre_present_notify", []⟩
  | .setTitle title, _ => some ⟨"set_title", [.name title]⟩
  | .pollContinuously, _ => some ⟨"set_control_flow", [.name "Poll"]⟩
  | .exitEventLoop, _ => some ⟨"exit", []⟩
  | .dropSurface, _ => some ⟨"drop_surface", []⟩
  | .dropContext, _ => some ⟨"drop_context", []⟩
  | .dropWindow, _ => some ⟨"drop_window", []⟩
  | _, _ => none

namespace Datum

/-- An input event by its fields. -/
def inputEvent : InputEvent → Datum
  | .key key pressed repeated =>
    .fields [("key", .name key.name), ("pressed", .flag pressed), ("repeat", .flag repeated)]
  | .pointer x y => .fields [("pointer", .list [.single x, .single y])]
  | .button which pressed => .fields [("button", .name which.name), ("pressed", .flag pressed)]
  | .wheel scroll =>
    let (kind, x, y) := match scroll with
      | .lines x y => ("wheel_line", x, y)
      | .pixels x y => ("wheel_pixel", x, y)
    .fields [(kind, .list [.single x, .single y]), ("lines_y", .single scroll.linesY)]
  | .focused gained => .fields [("focused", .flag gained)]

/-- The name of a kind of finding and what belongs to it. -/
def findingDetails : Finding → String × List (String × Datum)
  | .missingFile path => ("MissingFile", [("path", .name path.text)])
  | .malformedInclude path line =>
    ("MalformedInclude", [("path", .name path.text), ("line", .number line)])
  | .selfInclude path line => ("SelfInclude", [("path", .name path.text), ("line", .number line)])
  | .tooManyIncludes path => ("TooManyIncludes", [("path", .name path.text)])
  | .outputTruncated path capacity =>
    ("OutputTruncated", [("path", .name path.text), ("capacity", .number capacity)])
  | .compileFailed stage source log =>
    ("CompileFailed", [("stage", .name stage.label), ("name", .name source), ("log", .text log)])
  | .linkFailed label log => ("LinkFailed", [("name", .name label), ("log", .text log)])
  | .validateFailed label => ("ValidateFailed", [("name", .name label)])

/-- A finding by its fields. -/
def findingFields (finding : Finding) : List (String × Datum) :=
  let (kind, details) := findingDetails finding
  ("kind", .name kind) :: details ++
    [("display", .text finding.message), ("build_failure", .flag finding.failsBuild)]

/-- A report on an expansion by its fields. -/
def reportFields (report : ExpansionReport) : List (String × Datum) :=
  [("diagnostics", .list (report.findings.map fun finding => .fields (findingFields finding))),
    ("files", .list (report.files.map fun path => .name path.text)),
    ("budget_exhausted", .flag report.budgetExhausted), ("truncated", .flag report.truncated)]

/-- An owned shader or program by its fields, with its number as inspected values show it. -/
def handleFields (style : NumberStyle) : Handle → Option (List (String × Datum))
  | .shader handle =>
    some [("raw", .number handle.id.number), ("stage", .name handle.stage.label),
      ("debug", .name (handle.inspect style))]
  | .program handle =>
    some [("raw", .number handle.id.number), ("label", .name handle.label),
      ("debug", .name (handle.inspect style))]
  | .vertexArray _ => none

/-- The input state by its fields. -/
def eventData (data : EventData) : Datum :=
  .fields [("wheel_delta", .single data.wheelDelta),
    ("mouse", .list [.single data.mouseX, .single data.mouseY]),
    ("mouse_moved", .flag data.mouseMoved), ("rotate", .flag data.rotatePressed),
    ("translate", .flag data.panPressed), ("space", .flag data.spaceToggled),
    ("exit", .flag data.exitRequested)]

end Datum

open Datum in
/-- How a consultation of the observer is written down. -/
def Observation.record? : Observation → Option Record
  | .particlesInit => some ⟨"particles_init", []⟩
  | .particlesDeinit => some ⟨"particles_deinit", []⟩
  | .particlesUpdate dt view => some ⟨"particles_update", [.single dt, mat4 view]⟩
  | .particlesRender view viewProjection =>
    some ⟨"particles_render", [mat4 view, mat4 viewProjection]⟩
  | .contextReady size => some ⟨"on_context_ready", [number size.width, number size.height]⟩
  | .input event => some ⟨"on_input", [inputEvent event]⟩
  | .windowEvent kind => some ⟨"on_window_event", [.name kind]⟩
  | .frame view =>
    some ⟨"on_frame", [.fields [("size", size view.size), ("aspect", .single view.aspect),
      ("data", eventData view.data), ("frame_index", number view.index.toNat),
      ("dt_in_range", .flag true), ("elapsed_ok", .flag true), ("dummy_id", .flag true),
      ("gl_refs_kept", .flag true)]]⟩
  | .frameControl => none
  | .teardown => some ⟨"on_teardown", []⟩

end Shaderbox
