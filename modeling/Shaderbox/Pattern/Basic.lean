import Shaderbox.Pattern.CharSet

/-!
# Patterns

A pattern describes texts: single characters out of sets, places that must have certain
surroundings, and sequences, choices and repetitions of patterns. Modes of the written form are
applied already, so that a pattern means the same wherever it stands.
-/

namespace Shaderbox

namespace Pattern

/-- Where a place stands towards a word. -/
inductive WordPlace where
  | boundary
  | inside
  | start
  | stop
  | noneBefore
  | noneAfter
deriving DecidableEq, Repr

namespace WordPlace

/-- Whether a place is one of these, given whether a word stands before and after it. -/
def holds : WordPlace → (before after : Bool) → Bool
  | boundary, before, after => before != after
  | inside, before, after => before == after
  | start, before, after => !before && after
  | stop, before, after => before && !after
  | noneBefore, before, _ => !before
  | noneAfter, _, after => !after

end WordPlace

/-- What must hold about a place. -/
inductive Assertion where
  | textStart
  | textEnd
  /-- Behind a line feed, or at the start of the text. -/
  | lineStart
  /-- Before a line feed, or at the end of the text. -/
  | lineEnd
  /-- As at the start of a line, where a carriage return also ends a line, except inside a pair with
  a line feed. -/
  | lineStartAnyBreak
  | lineEndAnyBreak
  /-- A place towards a word, in the alphabet of ASCII or of all scripts. -/
  | word (place : WordPlace) (allScripts : Bool)
deriving DecidableEq, Repr

/-- Whether a character can stand in a word of ASCII. -/
def isWordChar (c : Char) : Bool :=
  c.isAlphanum || c == '_'

/-- Whether an assertion holds between two characters, of which there is none at the ends of the
text. Words of other scripts than ASCII are not known. -/
def Assertion.holds : Assertion → (before after : Option Char) → Bool
  | textStart, before, _ => before.isNone
  | textEnd, _, after => after.isNone
  | lineStart, before, _ => before.all (· == '\n')
  | lineEnd, _, after => after.all (· == '\n')
  | lineStartAnyBreak, before, after =>
    before.all fun c => c == '\n' || (c == '\r' && after != some '\n')
  | lineEndAnyBreak, before, after =>
    after.all fun c => c == '\r' || (c == '\n' && before != some '\r')
  | word place _, before, after => place.holds (before.any isWordChar) (after.any isWordChar)

end Pattern

/-- A description of texts. -/
inductive Pattern where
  /-- The empty text. -/
  | empty
  /-- One character out of a set. -/
  | char (set : Pattern.CharSet)
  /-- The empty text at certain places. -/
  | assert (assertion : Pattern.Assertion)
  | sequence (first second : Pattern)
  | choice (left right : Pattern)
  /-- At least `least` and at most `most` texts of a pattern, any number of them where that is
  missing. -/
  | repeated (least : Nat) (most : Option Nat) (body : Pattern)
deriving DecidableEq, Repr

namespace Pattern

/-- Patterns one after the other. -/
def ofSequence : List Pattern → Pattern
  | [] => empty
  | [single] => single
  | first :: rest => sequence first (ofSequence rest)

/-- One of several patterns. -/
def ofChoice : List Pattern → Pattern
  | [] => empty
  | [single] => single
  | first :: rest => choice first (ofChoice rest)

/-- The longest text of a pattern, where there is a bound. -/
def mostChars : Pattern → Option Nat
  | empty => some 0
  | char _ => some 1
  | assert _ => some 0
  | sequence first second => do return (← first.mostChars) + (← second.mostChars)
  | choice left right => do return max (← left.mostChars) (← right.mostChars)
  | repeated _ most body => do return (← most) * (← body.mostChars)

/-- A repetition. Repeating the empty text more than once adds nothing, and no repetition at all
leaves the empty text. -/
def repetition (least : Nat) (most : Option Nat) (body : Pattern) : Pattern :=
  let (least, most) :=
    if body.mostChars = some 0 then (min least 1, some (min (most.getD 1) 1)) else (least, most)
  if most = some 0 then empty
  else if least = 1 ∧ most = some 1 then body
  else repeated least most body

/-- Whether matching needs to know the words of all scripts. -/
def needsAllScripts : Pattern → Bool
  | empty => false
  | char _ => false
  | assert (.word _ allScripts) => allScripts
  | assert _ => false
  | sequence first second => first.needsAllScripts || second.needsAllScripts
  | choice left right => left.needsAllScripts || right.needsAllScripts
  | repeated _ _ body => body.needsAllScripts

/-- The octets that one state of an automaton takes. -/
def stateWeight : Nat := 32

/-- An estimate of the octets that the larger of the two automata for a pattern takes, the one that
reads forward and the one that reads backward. A character beyond ASCII is read octet by octet, and
a set with such characters needs states for each shape of their encodings. -/
def weight : Pattern → Nat
  | empty => stateWeight
  | char (.range first last) =>
    if first = last then stateWeight * first.utf8Size
    else if last.toNat < 0x80 then 2 * stateWeight + 8
    else 10 * stateWeight
  | char set =>
    if set.isASCII then 2 * stateWeight + 8 * set.rangeCount
    else (29 + set.rangeCount) * stateWeight
  | assert _ => stateWeight
  | sequence first second => first.weight + second.weight
  | choice left right => left.weight + right.weight + stateWeight
  | repeated least none body => max least 1 * body.weight + 2 * stateWeight
  | repeated least (some most) body =>
    max least most * body.weight + (most - least) * stateWeight + stateWeight

end Pattern

end Shaderbox
