import Shaderbox.Log.Filter
import Shaderbox.Text.Terminal

/-!
# The logger

The logger writes the records that its filter lets through, each with a header in brackets and
without terminal control. It is installed once for a process, and later attempts change nothing. A
filter in the settings wins over one in the environment; without either, everything up to `info` is
let through.
-/

namespace Shaderbox

/-- Settings of the logger. -/
structure LogSettings where
  /-- A written filter. -/
  filter : Option String := none
  /-- Whether the header begins with the time. -/
  timestamps : Bool := true
deriving DecidableEq

/-- Settings with a written filter. -/
def LogSettings.ofFilter (filter : String) : LogSettings := { filter := some filter }

/-- An installed logger. -/
structure Logger where
  filter : LogFilter
  timestamps : Bool

namespace Logger

/-- Target of the records about logging itself. -/
def ownTarget : String := "lumen_engine::logging::init"

/-- A level's name, filled up to the width of the longest. -/
def paddedName (level : LogLevel) : List Char :=
  let name := level.name.toList
  name ++ List.replicate (5 - name.length) ' '

/-- The header of a record. An empty target is left out. -/
def header (logger : Logger) (time target : String) (level : LogLevel) : List Char :=
  let parts := (if logger.timestamps then [time.toList] else []) ++ [paddedName level] ++
    (if target.isEmpty then [] else [target.toList])
  '[' :: [' '].intercalate parts ++ [']', ' ']

/-- The text of a record: its header and its message, whose lines behind the first are indented. -/
def format (logger : Logger) (time target : String) (record : LogRecord) : List Char :=
  logger.header time target record.level ++
    ('\n' :: List.replicate 4 ' ').intercalate (record.message.toList.splitOn '\n') ++ ['\n']

/-- What is written for a record. -/
def write (logger : Logger) (time target : String) (record : LogRecord) : List Char :=
  if logger.filter.admits target record then
    Text.withoutControl (logger.format time target record)
  else []

/-- The filter to use, and what could not be read of it. -/
def chooseFilter (settings : LogSettings) (environment : Option String) :
    LogFilter × List LogFilterFault :=
  match settings.filter.or environment with
  | some spec => LogFilter.read spec.toList
  | none => (.ofLimit (.upTo .info), [])

/-- Install the logger unless there is one, and say what is written meanwhile. -/
def install (settings : LogSettings) (environment : Option String) (time : String) :
    Option Logger → Logger × List Char
  | some logger => (logger, [])
  | none =>
    let (filter, faults) := chooseFilter settings environment
    let logger := Logger.mk filter settings.timestamps
    (logger, faults.flatMap (fun fault => fault.warning.toList ++ ['\n']) ++
      logger.write time ownTarget ⟨.debug, "logging initialized"⟩)

end Logger

end Shaderbox
