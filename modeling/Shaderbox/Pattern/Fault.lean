import Shaderbox.Text.Lines

/-!
# Faults of written patterns

A fault of a written pattern has a cause and a span, and some causes point at a second span. The
explanation of a fault repeats the pattern with marks under the spans.
-/

namespace Shaderbox.Pattern

/-- A part of a written pattern: the numbers of the characters before it, and before its end. -/
structure Span where
  start : Nat
  stop : Nat
deriving DecidableEq, Repr

/-- From the beginning of one span to the end of another. -/
def Span.to (first last : Span) : Span := ⟨first.start, last.stop⟩

/-- Why a written pattern has no meaning. -/
inductive Cause where
  | classEscape
  | classRangeOrder
  | classRangeEnd
  | classUnclosed
  | numberTooLarge
  | hexEmpty
  | hexNoCharacter
  | hexDigit
  | escapeUnfinished
  | escapeUnknown
  | modeDanglingNegation
  | modeRepeated
  | modeNegatedTwice
  | modeUnfinished
  | modeUnknown
  | nameRepeated
  | nameEmpty
  | nameCharacter
  | nameUnclosed
  | groupUnclosed
  | groupUnopened
  | nestedTooDeep (limit : Nat)
  | countOrder
  | countEmpty
  | countUnclosed
  | nothingToRepeat
  | wordPlaceUnclosed
  | wordPlaceUnknown
  | wordPlaceOrCountUnclosed
  | propertyUnwritten
  | backreference
  | lookAround
  | notInOctets
  | invalidEncoding
  | propertyUnknown
  | propertyValueUnknown
  | shorthandUnavailable
  | anyCaseUnavailable
deriving DecidableEq, Repr

/-- The cause in words. -/
def Cause.message : Cause → String
  | classEscape => "invalid escape sequence found in character class"
  | classRangeOrder => "invalid character class range, the start must be <= the end"
  | classRangeEnd => "invalid range boundary, must be a literal"
  | classUnclosed => "unclosed character class"
  | numberTooLarge => "decimal literal invalid"
  | hexEmpty => "hexadecimal literal empty"
  | hexNoCharacter => "hexadecimal literal is not a Unicode scalar value"
  | hexDigit => "invalid hexadecimal digit"
  | escapeUnfinished => "incomplete escape sequence, reached end of pattern prematurely"
  | escapeUnknown => "unrecognized escape sequence"
  | modeDanglingNegation => "dangling flag negation operator"
  | modeRepeated => "duplicate flag"
  | modeNegatedTwice => "flag negation operator repeated"
  | modeUnfinished => "expected flag but got end of regex"
  | modeUnknown => "unrecognized flag"
  | nameRepeated => "duplicate capture group name"
  | nameEmpty => "empty capture group name"
  | nameCharacter => "invalid capture group character"
  | nameUnclosed => "unclosed capture group name"
  | groupUnclosed => "unclosed group"
  | groupUnopened => "unopened group"
  | nestedTooDeep limit =>
    "exceed the maximum number of nested parentheses/brackets (" ++ toString limit ++ ")"
  | countOrder => "invalid repetition count range, the start must be <= the end"
  | countEmpty => "repetition quantifier expects a valid decimal"
  | countUnclosed => "unclosed counted repetition"
  | nothingToRepeat => "repetition operator missing expression"
  | wordPlaceUnclosed =>
    "special word boundary assertion is either unclosed or contains an invalid character"
  | wordPlaceUnknown =>
    "unrecognized special word boundary assertion, valid choices are: " ++
      "start, end, start-half or end-half"
  | wordPlaceOrCountUnclosed =>
    "found either the beginning of a special word boundary or a bounded repetition on a \\b " ++
      "with an opening brace, but no closing brace"
  | propertyUnwritten => "invalid Unicode character class"
  | backreference => "backreferences are not supported"
  | lookAround => "look-around, including look-ahead and look-behind, is not supported"
  | notInOctets => "Unicode not allowed here"
  | invalidEncoding => "pattern can match invalid UTF-8"
  | propertyUnknown => "Unicode property not found"
  | propertyValueUnknown => "Unicode property value not found"
  | shorthandUnavailable =>
    "Unicode-aware Perl class not found (make sure the unicode-perl feature is enabled)"
  | anyCaseUnavailable =>
    "Unicode-aware case insensitivity matching is not available " ++
      "(make sure the unicode-case feature is enabled)"

/-- Why a written pattern cannot be used. -/
inductive Fault where
  /-- It has no meaning. -/
  | meaningless (cause : Cause) (span : Span) (also : Option Span := none)
  /-- It is too large: its automaton would take more octets than this. -/
  | tooLarge (limit : Nat)
  /-- It needs to know the words of all scripts. -/
  | unknownWords
deriving DecidableEq, Repr

/-- A place in a pattern of several lines; both count from one. -/
structure LinePlace where
  line : Nat
  column : Nat
deriving DecidableEq, Repr

/-- Where a pattern stands behind some of its characters. -/
def LinePlace.behind (count : Nat) (pattern : List Char) : LinePlace :=
  let before := pattern.take count
  ⟨before.count '\n' + 1, (before.reverse.takeWhile (· != '\n')).length + 1⟩

/-- A span by the lines and columns of its ends. -/
structure LineSpan where
  start : LinePlace
  stop : LinePlace
deriving DecidableEq, Repr

namespace LineSpan

/-- The lines and columns of a span. -/
def ofSpan (pattern : List Char) (span : Span) : LineSpan :=
  ⟨.behind span.start pattern, .behind span.stop pattern⟩

/-- Whether a span begins and ends in the same line. -/
def inOneLine (span : LineSpan) : Bool :=
  span.start.line == span.stop.line

/-- Marks under the characters of a span, behind a line of marks so far. An empty span has one. -/
def marked (marks : List Char) (span : LineSpan) : List Char :=
  let gap := span.start.column - 1 - marks.length
  marks ++ List.replicate gap ' ' ++
    List.replicate (max 1 (span.stop.column - span.start.column)) '^'

/-- Where a span lies that goes over several lines. -/
def description (span : LineSpan) : String :=
  "on line " ++ toString span.start.line ++ " (column " ++ toString span.start.column ++
    ") through line " ++ toString span.stop.line ++ " (column " ++
    toString (span.stop.column - 1) ++ ")"

end LineSpan

/-- The lines of a pattern, with marks under those that spans lie in. Lines have numbers if there
are several. -/
def markedLines (pattern : List Char) (spans : List LineSpan) : List (List Char) :=
  let lines := Text.lines pattern
  let count := lines.length + (if pattern.getLast? = some '\n' then 1 else 0)
  let width := if count ≤ 1 then 0 else (toString count).length
  (lines.zipIdx 1).flatMap fun (line, number) =>
    let label := (toString number).toList
    let margin :=
      if width = 0 then List.replicate 4 ' '
      else List.replicate (width - label.length) ' ' ++ label ++ [':', ' ']
    let marks := (spans.filter (·.start.line == number)).foldl LineSpan.marked []
    (margin ++ line) ::
      (if marks.isEmpty then [] else [List.replicate margin.length ' ' ++ marks])

/-- A fault in a written pattern, explained over several lines. -/
def explained (pattern : List Char) (cause : Cause) (spans : List Span) : String :=
  let spans := spans.map (LineSpan.ofSpan pattern)
  let marked := markedLines pattern (spans.filter (·.inOneLine))
  let ending := ("error: " ++ cause.message).toList
  let lines :=
    if pattern.contains '\n' then
      let rule := List.replicate 79 '~'
      let wide := (spans.filter (!·.inOneLine)).map fun span => span.description.toList
      [rule] ++ marked ++ [rule] ++ wide ++ [ending]
    else marked ++ [ending]
  String.ofList (['\n'].intercalate ("regex parse error:".toList :: lines))

/-- A fault in words, with the pattern that it is in. -/
def Fault.message (pattern : List Char) : Fault → String
  | meaningless cause span also =>
    let spans := match also with
      | none => [span]
      | some other => if other.start < span.start then [other, span] else [span, other]
    explained pattern cause spans
  | tooLarge limit => "Compiled regex exceeds size limit of " ++ toString limit ++ " bytes."
  | unknownWords => "error building NFA"

end Shaderbox.Pattern
