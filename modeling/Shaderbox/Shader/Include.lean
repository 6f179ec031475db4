import Shaderbox.Shader.Buffer
import Shaderbox.Shader.Finding
import Shaderbox.Shader.Source

/-!
# Expanding include directives

A directive stands at the very start of a line. The text is searched from one directive to the
next; an accepted one is replaced by the expanded file and a line marker, and every other one
stays where it is. What happens on the way is recorded as a list of events, from which the files
read, the findings and the log are all read off.

Each file that is opened costs one unit of a budget that the whole expansion shares. Files are
therefore nested no deeper than the budget is large, which is what the recursion follows.
-/

namespace Shaderbox

/-- What a directive looks like up to its name. -/
def includeMark : List Char := "#include \"".toList

/-- One thing that happened during an expansion. -/
inductive IncludeEvent where
  | opened (path : Path) (source : LoadedSource)
  | failed (path : Path) (fault : LoadFault)
  | malformed (path : Path) (line : Nat)
  | selfIncluded (path : Path) (line : Nat) (name : Path)
  | refused
deriving DecidableEq

namespace IncludeEvent

/-- The finding that an event gives rise to. Running out of budget is reported once, at the end. -/
def finding? : IncludeEvent → Option Finding
  | .opened .. => none
  | .failed path _ => some (.missingFile path)
  | .malformed path line => some (.malformedInclude path line)
  | .selfIncluded path line _ => some (.selfInclude path line)
  | .refused => none

/-- The path of a file that was read. -/
def file? : IncludeEvent → Option Path
  | .opened path _ => some path
  | _ => none

/-- The log record that an event gives rise to. -/
def log? : IncludeEvent → Option LogRecord
  | .opened path source => source.log? path
  | .failed path fault => fault.log? path
  | .malformed path line => some ⟨.warn, s!"{path.text}:{line}: malformed #include directive"⟩
  | .selfIncluded path line name =>
    some ⟨.warn, s!"{path.text}:{line}: \"{name.text}\" includes itself"⟩
  | .refused => none

/-- Whether a directive met an empty budget. -/
def isRefusal : IncludeEvent → Bool
  | .refused => true
  | _ => false

/-- Whether the cap on file sizes could not be honoured. -/
def isOverflow : IncludeEvent → Bool
  | .failed _ .capOverflow => true
  | _ => false

end IncludeEvent

/-- The outcome of expanding a piece of source: its text, the budget left and what happened. -/
structure Walk where
  text : List Char
  budget : Nat
  events : List IncludeEvent
deriving DecidableEq

namespace Walk

/-- Put text and events in front. -/
def prepend (text : List Char) (events : List IncludeEvent) (walk : Walk) : Walk :=
  ⟨text ++ walk.text, walk.budget, events ++ walk.events⟩

end Walk

/-- Position of the first directive, counted on from `offset`. -/
def directiveFrom (offset : Nat) (lineStart : Bool) : List Char → Option Nat
  | [] => none
  | c :: rest =>
    if lineStart && includeMark.isPrefixOf (c :: rest) then some offset
    else directiveFrom (offset + 1) (c == '\n') rest

/-- Position of the first directive at the start of a line. -/
def directive? (source : List Char) : Option Nat :=
  directiveFrom 0 true source

/-- The name in a directive, given what follows the opening quote on its line. There must be a
closing quote, and the name must be short enough and stay under the shader root. -/
def includeName? (onLine : List Char) : Option Path :=
  let name := onLine.takeWhile (· ≠ '"')
  let path := Path.mk (String.ofList name)
  if name.length = onLine.length then none
  else if name = [] ∨ ShaderConfig.maxIncludeNameSize < Text.extent name then none
  else if path.staysInside then some path else none

/-- What follows an expanded file: a marker with the line of its directive. The rest of the text
then begins with the end of that line, so the line after it gets the next number. -/
def lineMarker (line : Nat) (rest : List Char) : List Char :=
  s!"\n#line {line}".toList ++ if rest.isEmpty then [] else ['\n']

theorem length_lt_of_directive {source : List Char} {offset : Nat}
    (h : directive? source = some offset) (count : Nat) :
    ((source.drop (offset + includeMark.length)).drop count).length < source.length := by
  cases source with
  | nil => simp [directive?, directiveFrom] at h
  | cons c rest =>
    have : 0 < includeMark.length := by decide
    simp only [List.length_drop, List.length_cons]
    omega

/-- Expand a text that begins at the given line of the file at `path`. Accepted directives are
expanded by `splice`, which is told the budget left and the path. -/
def expandText (config : ShaderConfig) (top path : Path) (splice : Nat → Path → Walk)
    (line budget : Nat) (source : List Char) : Walk :=
  match found : directive? source with
  | none => ⟨source, budget, []⟩
  | some offset =>
    let before := source.take offset
    let line := line + before.count '\n'
    let behind := source.drop (offset + includeMark.length)
    let onLine := behind.takeWhile (· ≠ '\n')
    let rest := behind.drop onLine.length
    have _shorter := length_lt_of_directive found onLine.length
    let inPlace := before ++ includeMark ++ onLine
    match includeName? onLine with
    | none =>
      (expandText config top path splice line budget rest).prepend inPlace
        [.malformed path line]
    | some name =>
      let target := config.path name
      if target.same path || target.same top then
        ⟨source, budget, [.selfIncluded path line name]⟩
      else match budget with
        | 0 => (expandText config top path splice line 0 rest).prepend inPlace [.refused]
        | budget + 1 =>
          let file := splice budget target
          (expandText config top path splice line file.budget rest).prepend
            (before ++ file.text ++ lineMarker line rest) file.events
  termination_by source.length
  decreasing_by all_goals exact _shorter

/-- Read a file and expand its text. -/
def readWith (files : Files) (config : ShaderConfig) (top : Path) (splice : Nat → Path → Walk)
    (budget : Nat) (path : Path) : Walk :=
  match loadSource files config.maxSourceSize path with
  | .error fault => ⟨[], budget, [.failed path fault]⟩
  | .ok source =>
    (expandText config top path splice 1 budget source.text.toList).prepend []
      [.opened path source]

/-- Expand a file whose includes are nested at most `depth` deep. -/
def expandFile (files : Files) (config : ShaderConfig) (top : Path) :
    (depth : Nat) → (budget : Nat) → Path → Walk
  | 0 => readWith files config top fun budget _ => ⟨[], budget, []⟩
  | depth + 1 => readWith files config top (expandFile files config top depth)

/-- Expand the top-level file with a budget, before any cut. -/
def walkFile (files : Files) (config : ShaderConfig) (path : Path) (budget : Int) : Walk :=
  match budget.toNat with
  | 0 => ⟨[], 0, [.refused]⟩
  | budget + 1 => expandFile files config path budget budget path

/-- What was found while expanding one top-level file, and which files were read, in order. -/
structure ExpansionReport where
  findings : List Finding
  files : List Path
deriving DecidableEq

namespace ExpansionReport

/-- Whether the include budget ran out. -/
def budgetExhausted (report : ExpansionReport) : Bool :=
  report.findings.any fun
    | .tooManyIncludes _ => true
    | _ => false

/-- Whether text was cut off. -/
def truncated (report : ExpansionReport) : Bool :=
  report.findings.any fun
    | .outputTruncated .. => true
    | _ => false

end ExpansionReport

/-- An expanded file, its report and the log of its expansion. -/
structure Expansion where
  text : String
  report : ExpansionReport
  log : List LogRecord
deriving DecidableEq

namespace Expansion

/-- Everything that a walk over the top-level file found, before any cut. -/
def ofWalk (path : Path) (walk : Walk) : Expansion :=
  let exhausted := walk.events.any IncludeEvent.isRefusal
  { text := String.ofList walk.text
    report :=
      { findings := walk.events.filterMap IncludeEvent.finding? ++
          if exhausted then [.tooManyIncludes path] else []
        files := walk.events.filterMap IncludeEvent.file? }
    log := walk.events.filterMap IncludeEvent.log? ++
      if exhausted then
        [⟨.error, s!"too many includes found while resolving \"{path.text}\""⟩]
      else [] }

/-- Cut the text to a capacity, and say so with the given log message if that loses anything. -/
def cut (path : Path) (capacity : Nat) (message : String) (expansion : Expansion) : Expansion :=
  if expansion.text.utf8ByteSize ≤ capacity then expansion
  else
    { text := cutText capacity expansion.text
      report :=
        { expansion.report with
          findings := expansion.report.findings ++ [.outputTruncated path capacity] }
      log := expansion.log ++ [⟨.warn, message⟩] }

/-- Cut the text to the greatest source size. -/
def capped (path : Path) (limit : Nat) (expansion : Expansion) : Expansion :=
  expansion.cut path limit
    (s!"expanded source of \"{path.text}\" is {expansion.text.utf8ByteSize} bytes, " ++
      s!"over the {limit} byte limit; truncated")

end Expansion

/-- Expand a file with an explicit budget. -/
def expandBounded (files : Files) (config : ShaderConfig) (path : Path) (budget : Int) :
    Except Abort Expansion :=
  let walk := walkFile files config path budget
  if walk.events.any IncludeEvent.isOverflow then .error .additionOverflow
  else .ok ((Expansion.ofWalk path walk).capped path config.maxSourceSize)

/-- Expand a file with the configured budget. -/
def expand (files : Files) (config : ShaderConfig) (path : Path) : Except Abort Expansion :=
  expandBounded files config path config.includeBudget

/-- Expand a file into a buffer, which replaces the content. -/
def expandInto (files : Files) (config : ShaderConfig) (path : Path) (buffer : SourceBuffer) :
    Except Abort (SourceBuffer × Expansion) := do
  let expansion ← expand files config path
  let buffer := buffer.replace expansion.text
  return (buffer, expansion.cut path buffer.capacity
    s!"expanded source of \"{path.text}\" exceeds the {buffer.capacity} byte buffer; truncated")

end Shaderbox
