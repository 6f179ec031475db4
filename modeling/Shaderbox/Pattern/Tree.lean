import Shaderbox.Pattern.Basic
import Shaderbox.Pattern.Fault

/-!
# Written patterns

The parts of a pattern as they are written, each with the span where it stands. What a part
describes depends on the modes that are in force there.
-/

namespace Shaderbox.Pattern

/-- What changes the meaning of the parts behind it. -/
inductive Mode where
  | anyCase
  | severalLines
  | dotTakesBreaks
  | lazyFirst
  | unicode
  | anyBreak
  | spaced
deriving DecidableEq, Repr

/-- The letter that a mode is written with. -/
def Mode.letter : Mode → Char
  | anyCase => 'i'
  | severalLines => 'm'
  | dotTakesBreaks => 's'
  | lazyFirst => 'U'
  | unicode => 'u'
  | anyBreak => 'R'
  | spaced => 'x'

/-- The mode that a letter stands for. -/
def Mode.ofLetter? (letter : Char) : Option Mode :=
  [anyCase, severalLines, dotTakesBreaks, lazyFirst, unicode, anyBreak, spaced].find?
    (·.letter == letter)

/-- Modes with whether they are switched on or off, in the order in which they are written. -/
abbrev ModeChanges := List (Mode × Bool)

/-- A character that stands for itself. -/
structure Literal where
  span : Span
  char : Char
  /-- Whether it is written with two hexadecimal digits, so that it may be meant as an octet. -/
  octet : Bool := false
deriving DecidableEq, Repr

/-- A place that a pattern asks for, before it is known what counts as a line. -/
inductive Anchor where
  | lineStart
  | lineEnd
  | textStart
  | textEnd
  | word (place : WordPlace)
deriving DecidableEq, Repr

/-- Classes of characters that have a one-letter escape. -/
inductive Shorthand where
  | digit
  | blank
  | word
deriving DecidableEq, Repr

/-- Classes of ASCII characters that are written by name. -/
inductive NamedClass where
  | alnum
  | alpha
  | ascii
  | blank
  | cntrl
  | digit
  | graph
  | lower
  | print
  | punct
  | space
  | upper
  | word
  | xdigit
deriving DecidableEq, Repr

namespace NamedClass

/-- Every class with its name. -/
def named : List (String × NamedClass) :=
  [("alnum", alnum), ("alpha", alpha), ("ascii", ascii), ("blank", blank), ("cntrl", cntrl),
    ("digit", digit), ("graph", graph), ("lower", lower), ("print", print), ("punct", punct),
    ("space", space), ("upper", upper), ("word", word), ("xdigit", xdigit)]

/-- The class with a name. -/
def ofName? (name : List Char) : Option NamedClass :=
  named.lookup (String.ofList name)

/-- The characters of a class. -/
def members : NamedClass → CharSet
  | alnum => .ofRanges [('0', '9'), ('A', 'Z'), ('a', 'z')]
  | alpha => .ofRanges [('A', 'Z'), ('a', 'z')]
  | ascii => .ofRanges [('\x00', '\x7F')]
  | blank => .ofList ['\t', ' ']
  | cntrl => .ofRanges [('\x00', '\x1F'), ('\x7F', '\x7F')]
  | digit => .ofRanges [('0', '9')]
  | graph => .ofRanges [('!', '~')]
  | lower => .ofRanges [('a', 'z')]
  | print => .ofRanges [(' ', '~')]
  | punct => .ofRanges [('!', '/'), (':', '@'), ('[', '\x60'), ('\x7B', '~')]
  | space => .ofList ['\t', '\n', '\x0B', '\x0C', '\r', ' ']
  | upper => .ofRanges [('A', 'Z')]
  | word => .ofRanges [('0', '9'), ('A', 'Z'), ('_', '_'), ('a', 'z')]
  | xdigit => .ofRanges [('0', '9'), ('A', 'F'), ('a', 'f')]

end NamedClass

/-- The ASCII characters of a shorthand. -/
def Shorthand.members : Shorthand → CharSet
  | digit => NamedClass.digit.members
  | blank => NamedClass.space.members
  | word => NamedClass.word.members

/-- What a class makes of two sets of characters. -/
inductive SetOperation where
  | intersection
  | difference
  | symmetricDifference
deriving DecidableEq, Repr

/-- What a class makes of two sets of characters. -/
def SetOperation.apply : SetOperation → CharSet → CharSet → CharSet
  | intersection => .intersection
  | difference => .difference
  | symmetricDifference => .symmetricDifference

/-- The members of a class as they are written. -/
inductive ClassTree where
  | empty (span : Span)
  | literal (literal : Literal)
  | range (first last : Literal)
  | named (span : Span) (name : NamedClass) (negated : Bool)
  | shorthand (span : Span) (kind : Shorthand) (negated : Bool)
  /-- A property of characters, by its name unless a value is asked for. -/
  | property (span : Span) (name : Option (List Char))
  | nested (span : Span) (negated : Bool) (body : ClassTree)
  | union (span : Span) (items : List ClassTree)
  | combined (operation : SetOperation) (left right : ClassTree)

namespace ClassTree

/-- Where a member stands. -/
def span : ClassTree → Span
  | empty span => span
  | literal l => l.span
  | range first last => first.span.to last.span
  | named span .. => span
  | shorthand span .. => span
  | property span _ => span
  | nested span .. => span
  | union span _ => span
  | combined _ left right => left.span.to right.span

end ClassTree

/-- A pattern as it is written. -/
inductive Tree where
  | empty (span : Span)
  /-- A change of modes for what follows in the same group. -/
  | modes (span : Span) (changes : ModeChanges)
  | literal (literal : Literal)
  | dot (span : Span)
  | anchor (span : Span) (anchor : Anchor)
  | shorthand (span : Span) (kind : Shorthand) (negated : Bool)
  | property (span : Span) (name : Option (List Char))
  | charClass (span : Span) (negated : Bool) (body : ClassTree)
  | repeated (span : Span) (least : Nat) (most : Option Nat) (body : Tree)
  | group (span : Span) (changes : ModeChanges) (body : Tree)
  | branches (span : Span) (branches : List Tree)
  | sequence (span : Span) (parts : List Tree)

namespace Tree

/-- Where a pattern stands. -/
def span : Tree → Span
  | empty span => span
  | modes span _ => span
  | literal l => l.span
  | dot span => span
  | anchor span _ => span
  | shorthand span .. => span
  | property span _ => span
  | charClass span .. => span
  | repeated span .. => span
  | group span .. => span
  | branches span _ => span
  | sequence span _ => span

/-- Parts one after the other, where one alone needs no sequence. -/
def ofParts (span : Span) : List Tree → Tree
  | [] => empty span
  | [single] => single
  | parts => sequence span parts

end Tree

/-- How deep classes, groups, repetitions, sequences and choices may be nested in each other. -/
def nestingLimit : Nat := 250

/-- The first member of a class that is nested too deep, with `room` levels left. -/
def ClassTree.tooDeep? (room : Nat) : ClassTree → Option Span
  | nested span _ body =>
    if room = 0 then some span else body.tooDeep? (room - 1)
  | union span items =>
    if room = 0 then some span else items.attach.findSome? fun item => item.1.tooDeep? (room - 1)
  | combined operation left right =>
    if room = 0 then some (combined operation left right).span
    else (left.tooDeep? (room - 1)).or (right.tooDeep? (room - 1))
  | _ => none

/-- The first part of a pattern that is nested too deep, with `room` levels left. -/
def Tree.tooDeep? (room : Nat) : Tree → Option Span
  | charClass span _ body => if room = 0 then some span else body.tooDeep? (room - 1)
  | repeated span _ _ body => if room = 0 then some span else body.tooDeep? (room - 1)
  | group span _ body => if room = 0 then some span else body.tooDeep? (room - 1)
  | branches span parts =>
    if room = 0 then some span else parts.attach.findSome? fun part => part.1.tooDeep? (room - 1)
  | sequence span parts =>
    if room = 0 then some span else parts.attach.findSome? fun part => part.1.tooDeep? (room - 1)
  | _ => none

end Shaderbox.Pattern
