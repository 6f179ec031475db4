import Shaderbox.Pattern.Reader

/-!
# Escapes

A backslash begins an escape: a punctuation character that stands for itself, a control character,
a character by its number, a class of characters, or a place that is asked for.
-/

namespace Shaderbox.Pattern

/-- Whether a character stands for itself behind a backslash: all of ASCII but letters, digits and
the angle brackets, which have other meanings or are kept for them. -/
def isEscapable (c : Char) : Bool :=
  c.toNat < 0x80 && !c.isAlphanum && c != '<' && c != '>'

/-- The control character that a letter stands for behind a backslash. -/
def controlEscape? : Char → Option Char
  | 'a' => some '\x07'
  | 'f' => some '\x0C'
  | 't' => some '\t'
  | 'n' => some '\n'
  | 'r' => some '\r'
  | 'v' => some '\x0B'
  | _ => none

/-- The class that a letter stands for behind a backslash, and whether its complement is meant. -/
def shorthandEscape? : Char → Option (Shorthand × Bool)
  | 'd' => some (.digit, false)
  | 's' => some (.blank, false)
  | 'w' => some (.word, false)
  | 'D' => some (.digit, true)
  | 'S' => some (.blank, true)
  | 'W' => some (.word, true)
  | _ => none

/-- The place that a character asks for behind a backslash. -/
def anchorEscape? : Char → Option Anchor
  | 'A' => some .textStart
  | 'z' => some .textEnd
  | 'b' => some (.word .boundary)
  | 'B' => some (.word .inside)
  | '<' => some (.word .start)
  | '>' => some (.word .stop)
  | _ => none

/-- How many digits the number of a character has behind a letter. -/
def hexEscape? : Char → Option Nat
  | 'x' => some 2
  | 'u' => some 4
  | 'U' => some 8
  | _ => none

/-- Places towards words by name. -/
def wordPlaces : List (String × WordPlace) :=
  [("start", .start), ("end", .stop), ("start-half", .noneBefore), ("end-half", .noneAfter)]

namespace Reader

/-- Read the name of a place towards a word, where the reader stands before an opening brace. If no
name can begin behind the brace, nothing is read. -/
def wordPlace? (start : Nat) (reader : Reader) : Except Fault (Option WordPlace × Reader) :=
  let opened := reader.place
  let inside := reader.next
  let inName := fun (c : Char) => c.isAlpha || c == '-'
  match inside.rest with
  | [] => refuse .wordPlaceOrCountUnclosed (inside.since start)
  | c :: _ =>
    if inName c then
      let (name, behind) := inside.collect inName
      if behind.sees ['\x7D'] then
        match wordPlaces.lookup (String.ofList name) with
        | some place => .ok (some place, behind.advance 1)
        | none => refuse .wordPlaceUnknown (behind.since inside.place)
      else refuse .wordPlaceUnclosed (behind.since opened)
    else .ok (none, reader)

/-- Read a property of characters. The reader stands before the letter of the escape. -/
def property (start : Nat) (reader : Reader) : Except Fault (Tree × Reader) :=
  let reader := reader.next
  match reader.rest with
  | [] => refuse .escapeUnfinished reader.here
  | '\x7B' :: _ =>
    let (name, behind) := reader.next.collect (· != '\x7D')
    if behind.rest.isEmpty then refuse .escapeUnfinished behind.here
    else
      let behind := behind.advance 1
      let hasValue := name.contains '=' || name.contains ':'
      .ok (.property (behind.since start) (if hasValue then none else some name), behind)
  | c :: _ =>
    if c = '\\' then refuse .propertyUnwritten reader.nextSpan
    else .ok (.property (reader.next.since start) (some [c]), reader.next)

/-- Read an escape. The reader stands before the backslash. -/
def escape (reader : Reader) : Except Fault (Tree × Reader) := do
  let start := reader.place
  let inside := reader.advance 1
  match inside.rest with
  | [] => refuse .escapeUnfinished (inside.since start)
  | c :: _ =>
    let behind := inside.advance 1
    let span := behind.since start
    if c.isDigit then refuse .backreference span
    else if let some digits := hexEscape? c then inside.hexChar start digits
    else if c = 'p' ∨ c = 'P' then inside.property start
    else if let some (kind, negated) := shorthandEscape? c then
      return (.shorthand span kind negated, behind)
    else if isEscapable c then return (.literal ⟨span, c, false⟩, behind)
    else if let some control := controlEscape? c then
      return (.literal ⟨span, control, false⟩, behind)
    else if c = 'b' ∧ behind.sees ['\x7B'] then
      let (place, behind) ← behind.wordPlace? start
      return (.anchor (behind.since start) (.word (place.getD .boundary)), behind)
    else if let some anchor := anchorEscape? c then return (.anchor span anchor, behind)
    else refuse .escapeUnknown span

end Reader

end Shaderbox.Pattern
