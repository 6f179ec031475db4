import Shaderbox.Proofs.TextLines
import Shaderbox.Shader.Include

/-!
# Expansion line by line

The walk over a shader file searches its text for the next directive. The rules here describe the
same expansion on whole lines: each rule says what becomes of the first line that is left, in
which state the expansion goes on, and which lines of output it gives. Every line of output is
told apart by where it comes from, so that statements about positions can name lines of files.

The rules leave no choice: `ExpandsLines.unique`. That the walk follows them is shown elsewhere.
-/

namespace Shaderbox

/-- What follows the opening quote of a directive on its line. -/
def behindQuote (line : List Char) : List Char :=
  line.drop includeMark.length

/-- The name in a directive: what stands before the closing quote. -/
def directiveName (line : List Char) : Path :=
  ⟨String.ofList ((behindQuote line).takeWhile (· ≠ '"'))⟩

/-- A directive without a closing quote, or whose name is empty, too long, or has a component that
is neither a plain name nor a dot. -/
def IsMalformed (line : List Char) : Prop :=
  '"' ∉ behindQuote line ∨ (directiveName line).text = "" ∨
    ShaderConfig.maxIncludeNameSize < (directiveName line).text.utf8ByteSize ∨
    ∃ component ∈ (directiveName line).components,
      component ≠ .current ∧ ∀ name, component ≠ .normal name

/-- A directive in the file at `path` that names this file or the top-level one. -/
def NamesItself (config : ShaderConfig) (top path : Path) (line : List Char) : Prop :=
  (config.path (directiveName line)).same path ∨ (config.path (directiveName line)).same top

/-- What the expansions of all files of one run share. -/
structure ExpansionState where
  budget : Int
  /-- Whether a directive met an empty budget. -/
  exhausted : Bool
  files : List Path
  findings : List Finding
deriving DecidableEq

namespace ExpansionState

/-- Nothing has happened yet. -/
def initial (budget : Int) : ExpansionState := ⟨budget, false, [], []⟩

/-- Record a finding. -/
def record (finding : Finding) (state : ExpansionState) : ExpansionState :=
  { state with findings := state.findings ++ [finding] }

/-- Remember that the budget was asked for more than it had. -/
def exhaust (state : ExpansionState) : ExpansionState :=
  { state with exhausted := true }

/-- Take one unit of the budget. -/
def spend (state : ExpansionState) : ExpansionState :=
  { state with budget := state.budget - 1 }

/-- Note that a file was read. -/
def note (path : Path) (state : ExpansionState) : ExpansionState :=
  { state with files := state.files ++ [path] }

/-- What is reported about the expansion of a top-level file. -/
def report (top : Path) (state : ExpansionState) : ExpansionReport where
  findings := state.findings ++ if state.exhausted then [.tooManyIncludes top] else []
  files := state.files

end ExpansionState

/-- A line of output. -/
inductive OutputLine where
  /-- A line of the file at `path`, with its number there. The file is included `depth` deep, and
  `behind` tells whether a directive of this file was expanded before the line. -/
  | copied (depth : Nat) (path : Path) (line : Nat) (behind : Bool) (text : List Char)
  /-- The marker behind an expanded file, with the line of its directive. -/
  | marker (line : Nat)
  /-- What stays of the line of an expanded directive, or stands for a file that was not read. -/
  | blank
deriving DecidableEq

/-- A marker with a line number. -/
def markerText (line : Nat) : List Char :=
  s!"#line {line}".toList

/-- The text of a line of output. -/
def OutputLine.text : OutputLine → List Char
  | .copied _ _ _ _ text => text
  | .marker line => markerText line
  | .blank => []

/-- Lines of a file that are kept, the first of which has the given number. -/
def keptLines (depth : Nat) (path : Path) (behind : Bool) :
    (line : Nat) → List (List Char) → List OutputLine
  | _, [] => []
  | line, text :: rest =>
    .copied depth path line behind text :: keptLines depth path behind (line + 1) rest

/-- What stays of the line of an expanded directive: its line feed, if there is one. -/
def directiveRemnant (rest : List (List Char)) : List OutputLine :=
  if rest.isEmpty then [] else [.blank]

section Rules

variable (files : Files) (config : ShaderConfig) (top : Path)

/-- Expand the lines from the given number on of a file that is included `depth` deep. -/
inductive ExpandsLines : (depth : Nat) → (path : Path) → (line : Nat) → (behind : Bool) →
    List (List Char) → ExpansionState → List OutputLine → ExpansionState → Prop where
  | finished (depth : Nat) (path : Path) (line : Nat) (behind : Bool) (state : ExpansionState) :
      ExpandsLines depth path line behind [] state [] state
  /-- A line that does not begin like a directive is copied. -/
  | plain {depth path line behind text rest state output final}
      (notDirective : ¬ includeMark <+: text)
      (tail : ExpandsLines depth path (line + 1) behind rest state output final) :
      ExpandsLines depth path line behind (text :: rest) state
        (.copied depth path line behind text :: output) final
  /-- A malformed directive is kept and reported. -/
  | malformed {depth path line behind text rest state output final}
      (directive : includeMark <+: text) (malformed : IsMalformed text)
      (tail : ExpandsLines depth path (line + 1) behind rest
        (state.record (.malformedInclude path line)) output final) :
      ExpandsLines depth path line behind (text :: rest) state
        (.copied depth path line behind text :: output) final
  /-- A directive that names its own file or the top-level one is reported, and it is kept together
  with all lines behind it. -/
  | selfInclude {depth path line behind text rest state}
      (directive : includeMark <+: text) (wellFormed : ¬ IsMalformed text)
      (itself : NamesItself config top path text) :
      ExpandsLines depth path line behind (text :: rest) state
        (keptLines depth path behind line (text :: rest)) (state.record (.selfInclude path line))
  /-- Without budget a directive is kept. -/
  | refused {depth path line behind text rest state output final}
      (directive : includeMark <+: text) (wellFormed : ¬ IsMalformed text)
      (other : ¬ NamesItself config top path text) (empty : state.budget ≤ 0)
      (tail : ExpandsLines depth path (line + 1) behind rest state.exhaust output final) :
      ExpandsLines depth path line behind (text :: rest) state
        (.copied depth path line behind text :: output) final
  /-- A directive whose file cannot be read is replaced by nothing. -/
  | missing {depth path line behind text rest state output final fault}
      (directive : includeMark <+: text) (wellFormed : ¬ IsMalformed text)
      (other : ¬ NamesItself config top path text) (affordable : 0 < state.budget)
      (failed : loadSource files config.maxSourceSize (config.path (directiveName text)) =
        .error fault)
      (tail : ExpandsLines depth path (line + 1) true rest
        (state.spend.record (.missingFile (config.path (directiveName text)))) output final) :
      ExpandsLines depth path line behind (text :: rest) state
        (.blank :: .marker line :: directiveRemnant rest ++ output) final
  /-- A directive is replaced by the lines of its file, expanded in turn. -/
  | spliced {depth path line behind text rest state body between output final source}
      (directive : includeMark <+: text) (wellFormed : ¬ IsMalformed text)
      (other : ¬ NamesItself config top path text) (affordable : 0 < state.budget)
      (loaded : loadSource files config.maxSourceSize (config.path (directiveName text)) =
        .ok source)
      (inner : ExpandsLines (depth + 1) (config.path (directiveName text)) 1 false
        (linesOf source.text.toList) (state.spend.note (config.path (directiveName text)))
        body between)
      (tail : ExpandsLines depth path (line + 1) true rest between output final) :
      ExpandsLines depth path line behind (text :: rest) state
        (body ++ .marker line :: directiveRemnant rest ++ output) final

/-- Read a file and expand its lines. -/
inductive ExpandsFile (depth : Nat) (path : Path) (state : ExpansionState) :
    List OutputLine → ExpansionState → Prop where
  | missing {fault} (failed : loadSource files config.maxSourceSize path = .error fault) :
      ExpandsFile depth path state [.blank] (state.record (.missingFile path))
  | loaded {source output final}
      (loaded : loadSource files config.maxSourceSize path = .ok source)
      (lines : ExpandsLines files config top depth path 1 false (linesOf source.text.toList)
        (state.note path) output final) :
      ExpandsFile depth path state output final

/-- Expand the top-level file, which takes its own unit of the budget. -/
inductive ExpandsTop (budget : Int) : List OutputLine → ExpansionState → Prop where
  | refused (empty : budget ≤ 0) :
      ExpandsTop budget [.blank] (ExpansionState.initial budget).exhaust
  | expanded {output final} (affordable : 0 < budget)
      (file : ExpandsFile files config top 0 top (ExpansionState.initial budget).spend
        output final) :
      ExpandsTop budget output final

end Rules

variable {files : Files} {config : ShaderConfig} {top path : Path}

/-- The rules give the lines of a file one output and one final state. -/
theorem ExpandsLines.unique {depth line : Nat} {behind : Bool} {lines : List (List Char)}
    {state final final' : ExpansionState} {output output' : List OutputLine}
    (h : ExpandsLines files config top depth path line behind lines state output final)
    (h' : ExpandsLines files config top depth path line behind lines state output' final') :
    output = output' ∧ final = final' := by
  induction h generalizing output' final' with
  | finished =>
    cases h'
    exact ⟨rfl, rfl⟩
  | plain notDirective _ ih =>
    cases h' with
    | plain _ tail =>
      obtain ⟨rfl, rfl⟩ := ih tail
      exact ⟨rfl, rfl⟩
    | _ => contradiction
  | malformed _ _ _ ih =>
    cases h' with
    | malformed _ _ tail =>
      obtain ⟨rfl, rfl⟩ := ih tail
      exact ⟨rfl, rfl⟩
    | _ => contradiction
  | selfInclude =>
    cases h' with
    | selfInclude => exact ⟨rfl, rfl⟩
    | _ => contradiction
  | refused _ _ _ empty _ ih =>
    cases h' with
    | refused _ _ _ _ tail =>
      obtain ⟨rfl, rfl⟩ := ih tail
      exact ⟨rfl, rfl⟩
    | missing _ _ _ affordable => omega
    | spliced _ _ _ affordable => omega
    | _ => contradiction
  | missing _ _ _ affordable failed _ ih =>
    cases h' with
    | missing _ _ _ _ _ tail =>
      obtain ⟨rfl, rfl⟩ := ih tail
      exact ⟨rfl, rfl⟩
    | refused _ _ _ empty => omega
    | spliced _ _ _ _ loaded => simp [failed] at loaded
    | _ => contradiction
  | spliced _ _ _ affordable loaded _ _ ihInner ihTail =>
    cases h' with
    | spliced _ _ _ _ loaded' inner tail =>
      obtain rfl := Except.ok.inj (loaded.symm.trans loaded')
      obtain ⟨rfl, rfl⟩ := ihInner inner
      obtain ⟨rfl, rfl⟩ := ihTail tail
      exact ⟨rfl, rfl⟩
    | refused _ _ _ empty => omega
    | missing _ _ _ _ failed => simp [loaded] at failed
    | _ => contradiction

/-- Behind the last line of a file nothing is written. -/
theorem ExpandsLines.eq_nil {depth line : Nat} {behind : Bool} {lines : List (List Char)}
    {state final : ExpansionState} {output : List OutputLine}
    (h : ExpandsLines files config top depth path line behind lines state output final)
    (hlines : lines = []) : output = [] := by
  subst hlines
  cases h
  rfl

/-- What is left of a file gives some output. -/
theorem ExpandsLines.ne_nil {depth line : Nat} {behind : Bool} {lines : List (List Char)}
    {state final : ExpansionState} {output : List OutputLine}
    (h : ExpandsLines files config top depth path line behind lines state output final)
    (hlines : lines ≠ []) : output ≠ [] := by
  cases h with
  | finished => contradiction
  | plain => exact List.cons_ne_nil _ _
  | malformed => exact List.cons_ne_nil _ _
  | selfInclude => exact List.cons_ne_nil _ _
  | refused => exact List.cons_ne_nil _ _
  | missing => exact List.cons_ne_nil _ _
  | spliced => simp

/-- The rules give a file one output and one final state. -/
theorem ExpandsFile.unique {depth : Nat} {state final final' : ExpansionState}
    {output output' : List OutputLine}
    (h : ExpandsFile files config top depth path state output final)
    (h' : ExpandsFile files config top depth path state output' final') :
    output = output' ∧ final = final' := by
  cases h with
  | missing failed =>
    cases h' with
    | missing => exact ⟨rfl, rfl⟩
    | loaded loaded => simp [failed] at loaded
  | loaded loaded lines =>
    cases h' with
    | missing failed => simp [loaded] at failed
    | loaded loaded' lines' =>
      obtain rfl := Except.ok.inj (loaded.symm.trans loaded')
      exact lines.unique lines'

/-- The rules give a top-level file one output and one final state. -/
theorem ExpandsTop.unique {budget : Int} {final final' : ExpansionState}
    {output output' : List OutputLine} (h : ExpandsTop files config top budget output final)
    (h' : ExpandsTop files config top budget output' final') :
    output = output' ∧ final = final' := by
  cases h with
  | refused empty =>
    cases h' with
    | refused => exact ⟨rfl, rfl⟩
    | expanded affordable => omega
  | expanded affordable file =>
    cases h' with
    | refused empty => omega
    | expanded _ file' => exact file.unique file'

/-- Even a top-level file that is not read gives some output. -/
theorem ExpandsTop.ne_nil {budget : Int} {output : List OutputLine} {final : ExpansionState}
    (h : ExpandsTop files config top budget output final) : output ≠ [] := by
  cases h with
  | refused => exact List.cons_ne_nil _ _
  | expanded _ file =>
    cases file with
    | missing => exact List.cons_ne_nil _ _
    | loaded _ lines => exact lines.ne_nil (linesOf_ne_nil _)

end Shaderbox
