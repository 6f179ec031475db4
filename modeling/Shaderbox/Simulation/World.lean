import Shaderbox.Simulation.Device
import Shaderbox.Simulation.Platform
import Shaderbox.Simulation.Transcript

/-!
# A simulated world

A scripted device, a scripted window system and what programs did to them. A program is carried out
either directly against the graphics interface or through raw calls; the two write different
transcripts of the same run.
-/

namespace Shaderbox

/-- A simulated world: its scripts, and the transcript and log, the latest entry first. -/
structure World where
  device : ScriptedDevice := {}
  platform : PlatformScript := {}
  transcript : List Record := []
  log : List LogRecord := []

/-- How graphics calls reach the device. -/
inductive FrontEnd where
  | direct
  | native
deriving DecidableEq

namespace World

/-- Write down a record, if there is one. -/
def note (world : World) (record? : Option Record) : World :=
  { world with transcript := record?.toList ++ world.transcript }

/-- Answer a request that is not a graphics call. -/
def answerOther {G : Interface} (graphics : Handler G World) : Handler (Effects G) World
  | .graphics call, world => graphics call world
  | .window call, world =>
    let answer := world.platform.answer call
    (answer, world.note (call.record? answer))
  | .log record, world => ((), { world with log := record :: world.log })
  | .observe observation, world =>
    (world.platform.decide observation, world.note observation.record?)

/-- Answer a call of the graphics interface. -/
def answerGraphics : Handler Graphics World := fun call world =>
  let (answer, device) := world.device.answer call
  (answer, { world with device }.note (call.record? answer))

/-- Answer a raw call. -/
def answerNative : Handler Native World := fun call world =>
  let (answer, device) := world.device.answerNative call
  (answer, { world with device }.note (call.record? answer))

/-- Carry out a program. -/
def perform {α : Type} (front : FrontEnd) (action : Action α) (world : World) :
    Except Abort α × World :=
  match front with
  | .direct => action.run (answerOther answerGraphics) world
  | .native => action.native.run (answerOther answerNative) world

/-- What a program leaves behind of a world in which it is carried out directly. -/
def behind {α : Type} (world : World) (program : Action α) : World :=
  (world.perform .direct program).2

/-- What a program exchanges with a world when it is carried out directly. -/
def rehearse {α : Type} (world : World) (program : Action α) : List (Exchange (Effects Graphics)) :=
  program.record (answerOther answerGraphics) world

theorem yields_rehearse {α : Type} {world : World} {program : Action α} {outcome : Except Abort α}
    (h : (world.perform .direct program).1 = outcome) :
    Interaction.Yields program (world.rehearse program) outcome :=
  h ▸ Interaction.yields_record _ program world

/-- The world with a clean transcript and log. -/
def forget (world : World) : World := { world with transcript := [], log := [] }

end World

end Shaderbox
