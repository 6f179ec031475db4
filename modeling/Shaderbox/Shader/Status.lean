import Shaderbox.Effect
import Shaderbox.Graphics.ErrorCode
import Shaderbox.Shader.Finding

/-!
# Status checks

Each check asks the device for one status, writes what is wrong to the log and gives it back as a
finding. None of them stops a build. The poll for errors can end the process, but only when it is
told to.
-/

namespace Shaderbox

/-- Most characters kept of an info log. -/
def infoLogLimit : Nat := 1024

/-- The beginning of an info log that is kept. -/
def cutLog (log : String) : String :=
  String.ofList (log.toList.take infoLogLimit)

/-- Check whether a shader compiled. -/
def checkCompile (shader : ShaderId) (stage : Stage) (name : String) : Action (Option Finding) := do
  if ← Action.graphics (.compileStatus shader) then return none
  else
    let log := cutLog (← Action.graphics (.shaderLog shader))
    Action.log .error s!"{name}: \n{log}"
    return some (.compileFailed stage name log)

/-- Check whether a program linked. -/
def checkLink (program : ProgramId) (name : String) : Action (Option Finding) := do
  if ← Action.graphics (.linkStatus program) then return none
  else
    let log := cutLog (← Action.graphics (.programLog program))
    Action.log .error log
    return some (.linkFailed name log)

/-- Validate a program against the present state of the device. -/
def checkValidate (program : ProgramId) (name : String) : Action (Option Finding) := do
  Action.graphics (.validateProgram program)
  if ← Action.graphics (.validateStatus program) then return none
  else
    Action.log .error s!"Program \"{name}\" failed to be validated."
    return some (.validateFailed name)

/-- What happens after a pending error was logged. -/
inductive ErrorSeverity where
  | log
  | fatal
deriving DecidableEq

/-- Where the error state is polled, as it is reported. -/
structure PollSite where
  file : String
  line : String

namespace PollSite

/-- A line of a file. -/
def atLine (file : String) (line : Nat) : PollSite := ⟨file, toString line⟩

/-- A place inside the engine, which is not told more exactly. -/
def engine : PollSite := ⟨"<file>", "<line>"⟩

end PollSite

/-- Poll the error state of the device. A pending error is logged, and its name given back unless
it is fatal. -/
def pollError (site : PollSite) (message : String) (severity : ErrorSeverity) :
    Action (Option String) := do
  let code ← Action.graphics .lastError
  if code = ErrorCode.none then return none
  else
    let name := ErrorCode.name code
    Action.log .error
      ("OpenGL error @ \"" ++ site.file ++ "\" [" ++ site.line ++ "]: " ++ message ++
        " [" ++ name ++ "].")
    match severity with
    | .fatal => .abort (.exit 1)
    | .log => return some name

end Shaderbox
