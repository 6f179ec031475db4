import Shaderbox.Log
import Shaderbox.Pattern.Meaning
import Shaderbox.Pattern.Occurrence
import Shaderbox.Text.Blank

/-!
# Log filters

A filter is written as directives between commas, each a target with a limit, and may end in a slash
and a pattern that must occur in a message. A directive counts for all targets that begin with its
own; where several do, the longest decides. A part that cannot be read is left out and reported.
-/

namespace Shaderbox

/-- Which levels are let through. -/
inductive LogLimit where
  | off
  | upTo (level : LogLevel)
deriving DecidableEq, Repr

namespace LogLimit

/-- Everything is let through. -/
def all : LogLimit := .upTo .trace

/-- Whether a level is let through. -/
def admits : LogLimit → LogLevel → Bool
  | .off, _ => false
  | .upTo limit, level => level.verbosity ≤ limit.verbosity

/-- Limits by their names in capitals. -/
def named : List (String × LogLimit) :=
  ("OFF", .off) :: LogLevel.all.map fun level => (level.name, .upTo level)

/-- The limit with a name, in capitals or not. -/
def ofName? (name : List Char) : Option LogLimit :=
  named.lookup (String.ofList (name.map Char.toUpper))

end LogLimit

/-- One directive of a filter; without a target it counts for all. -/
structure LogDirective where
  target : Option String
  limit : LogLimit
deriving DecidableEq, Repr

namespace LogDirective

/-- The text that targets must begin with. -/
def start (directive : LogDirective) : List Char :=
  (directive.target.getD "").toList

/-- Whether the directive counts for a target. -/
def covers (directive : LogDirective) (target : String) : Bool :=
  directive.start.isPrefixOf target.toList

end LogDirective

/-- A part of a written filter that cannot be read. -/
inductive LogFilterFault where
  /-- There is more than one slash. -/
  | slashes (spec : List Char)
  /-- A directive, or a limit in one, is none. -/
  | directive (part : List Char)
  /-- The pattern for messages cannot be used. -/
  | pattern (text : List Char) (fault : Pattern.Fault)
deriving DecidableEq, Repr

/-- What is written about an unreadable part. -/
def LogFilterFault.warning : LogFilterFault → String
  | .slashes spec =>
    "warning: invalid logging spec '" ++ String.ofList spec ++ "' (too many '/'s), ignoring it"
  | .directive part =>
    "warning: invalid logging spec '" ++ String.ofList part ++ "', ignoring it"
  | .pattern text fault =>
    "warning: invalid regex filter - " ++ fault.message text ++ ", ignoring it"

/-- Which records are let through. -/
structure LogFilter where
  directives : List LogDirective
  /-- A pattern that must occur in every message. -/
  pattern : Option Pattern := none

namespace LogFilter

/-- Read one directive: a limit for all targets, a target with everything let through, or a target
and its limit with an equals sign between them. -/
def readDirective (part : List Char) : Except LogFilterFault LogDirective :=
  match part.splitOn '=' with
  | [single] =>
    match LogLimit.ofName? single with
    | some limit => .ok ⟨none, limit⟩
    | none => .ok ⟨some (String.ofList single), .all⟩
  | [target, limit] =>
    let limit := Text.trim limit
    if limit.isEmpty then .ok ⟨some (String.ofList target), .all⟩
    else match LogLimit.ofName? limit with
      | some limit => .ok ⟨some (String.ofList target), limit⟩
      | none => .error (.directive limit)
  | _ => .error (.directive part)

/-- Add a directive in place of one for the same target. -/
def insert (directive : LogDirective) : List LogDirective → List LogDirective
  | [] => [directive]
  | other :: rest =>
    if other.target = directive.target then directive :: rest else other :: insert directive rest

/-- Read directives between commas. -/
def readDirectives (parts : List (List Char)) : List LogDirective × List LogFilterFault :=
  ((parts.map Text.trim).filter fun part => !part.isEmpty).foldl
    (fun (directives, faults) part =>
      match readDirective part with
      | .ok directive => (insert directive directives, faults)
      | .error fault => (directives, faults ++ [fault]))
    ([], [])

/-- Without any directive only errors are let through. -/
def orErrors (directives : List LogDirective) : List LogDirective :=
  if directives.isEmpty then [⟨none, .upTo .error⟩] else directives

/-- Read a written filter. -/
def read (spec : List Char) : LogFilter × List LogFilterFault :=
  match spec.splitOn '/' with
  | [parts] =>
    let (directives, faults) := readDirectives (parts.splitOn ',')
    (⟨orErrors directives, none⟩, faults)
  | [parts, text] =>
    let (directives, faults) := readDirectives (parts.splitOn ',')
    match Pattern.read text with
    | .ok pattern => (⟨orErrors directives, some pattern⟩, faults)
    | .error fault => (⟨orErrors directives, none⟩, faults ++ [.pattern text fault])
  | _ => (⟨orErrors [], none⟩, [.slashes spec])

/-- A filter that lets through the same levels for all targets. -/
def ofLimit (limit : LogLimit) : LogFilter := ⟨[⟨none, limit⟩], none⟩

/-- The later of two directives, unless the earlier has a longer target. -/
def prevailing (earlier : Option LogDirective) (later : LogDirective) : Option LogDirective :=
  match earlier with
  | none => some later
  | some earlier => if later.start.length < earlier.start.length then some earlier else some later

/-- The directive that decides about a target. -/
def deciding? (filter : LogFilter) (target : String) : Option LogDirective :=
  (filter.directives.filter (·.covers target)).foldl prevailing none

/-- Whether a record is let through. -/
def admits (filter : LogFilter) (target : String) (record : LogRecord) : Bool :=
  (filter.deciding? target).any (·.limit.admits record.level) &&
    filter.pattern.all (·.occurs record.message.toList)

end LogFilter

end Shaderbox
