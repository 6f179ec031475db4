import Shaderbox.Pattern.Escape

/-!
# Classes of characters in brackets

A class holds characters, ranges, named classes and further classes, and operations between what
stands before and behind them. Operations are taken from left to right.
-/

namespace Shaderbox.Pattern

/-- The operations with the signs that they are written with. -/
def setOperations : List (List Char × SetOperation) :=
  [(['&', '&'], .intersection), (['-', '-'], .difference), (['~', '~'], .symmetricDifference)]

/-- A class that has been opened. -/
structure OpenClass where
  /-- The opening bracket and what belongs to it. -/
  opening : Span
  negated : Bool
  /-- What stands before the last operation, and that operation. -/
  before : Option (ClassTree × SetOperation) := none
  /-- Where the members behind the last operation begin. -/
  place : Span
  /-- The members behind the last operation, the latest first. -/
  items : List ClassTree

namespace OpenClass

/-- The class with another member. -/
def push (item : ClassTree) (opened : OpenClass) : OpenClass :=
  { opened with items := item :: opened.items }

/-- The members behind the last operation. -/
def operand (opened : OpenClass) : ClassTree :=
  match opened.items.reverse with
  | [] => .empty opened.place
  | [single] => single
  | first :: rest => .union (first.span.to ((rest.getLast?.getD first).span)) (first :: rest)

/-- All members so far. -/
def body (opened : OpenClass) : ClassTree :=
  match opened.before with
  | none => opened.operand
  | some (left, operation) => .combined operation left opened.operand

/-- The class with an operation behind its members so far. -/
def combine (operation : SetOperation) (place : Span) (opened : OpenClass) : OpenClass :=
  { opened with before := some (opened.body, operation), place, items := [] }

end OpenClass

/-- A part of a pattern as a member of a class. -/
def Tree.classMember : Tree → Except Fault ClassTree
  | literal l => .ok (.literal l)
  | shorthand span kind negated => .ok (.shorthand span kind negated)
  | property span name => .ok (.property span name)
  | other => refuse .classEscape other.span

/-- A part of a pattern as an end of a range. -/
def Tree.rangeEnd : Tree → Except Fault Literal
  | literal l => .ok l
  | other => refuse .classRangeEnd other.span

namespace Reader

/-- The character that comes next as it stands. -/
def verbatim (reader : Reader) (c : Char) : Literal := ⟨reader.nextSpan, c, false⟩

/-- Read hyphens, which stand for themselves at the beginning of a class. The latest is first. -/
def hyphens (reader : Reader) (items : List ClassTree) : List ClassTree × Reader :=
  match h : reader.rest with
  | [] => (items, reader)
  | c :: _ =>
    if c = '-' then
      have := reader.length_next_lt h
      hyphens reader.next (.literal (reader.verbatim c) :: items)
    else (items, reader)
termination_by reader.rest.length

/-- Read the opening of a class: the bracket, a negation, and hyphens or a closing bracket that
stand for themselves. -/
def openClass (reader : Reader) : Except Fault (OpenClass × Reader) := do
  let start := reader.place
  let inside := reader.next
  if inside.rest.isEmpty then refuse .classUnclosed (inside.since start)
  let negated := inside.sees ['^']
  let inside := if negated then inside.next else inside
  if inside.rest.isEmpty then refuse .classUnclosed (inside.since start)
  let (items, behind) := inside.hyphens []
  if behind.rest.isEmpty then refuse .classUnclosed ⟨start, start⟩
  if items.isEmpty && behind.sees [']'] then
    let bracket := behind.verbatim ']'
    let behind := behind.next
    if behind.rest.isEmpty then refuse .classUnclosed (behind.since start)
    return ({ opening := behind.since start, negated, place := inside.here,
              items := [.literal bracket] }, behind)
  return ({ opening := behind.since start, negated, place := inside.here, items }, behind)

/-- Read a class by name, between brackets and colons. Anything else there is read otherwise. -/
def namedClass? (reader : Reader) : Option (ClassTree × Reader) := do
  let inside ← reader.pass? ['[', ':']
  let negated := inside.sees ['^']
  let inside := if negated then inside.advance 1 else inside
  let name := inside.rest.takeWhile (· != ':')
  let behind ← (inside.advance name.length).pass? [':', ']']
  let kind ← NamedClass.ofName? name
  return (.named (behind.since reader.place) kind negated, behind)

/-- Read one character of a class, as it stands or by an escape. -/
def classPart (reader : Reader) (c : Char) : Except Fault (Tree × Reader) :=
  if c = '\\' then reader.escape
  else .ok (.literal (reader.verbatim c), reader.advance 1)

/-- Read a member of a class that is no class in brackets. A hyphen behind it begins a range, unless
a bracket or another hyphen follows. -/
def classMember (opening : Span) (reader : Reader) (c : Char) :
    Except Fault (ClassTree × Reader) := do
  let (first, behind) ← reader.classPart c
  let behind := behind.skip
  if behind.rest.isEmpty then refuse .classUnclosed opening
  let following := behind.peek?
  if !behind.sees ['-'] || following == some ']' || following == some '-' then
    return (← first.classMember, behind)
  let behind := behind.next
  match behind.rest with
  | [] => refuse .classUnclosed opening
  | d :: _ =>
    let (last, behind) ← behind.classPart d
    let span := first.span.to last.span
    let low ← first.rangeEnd
    let high ← last.rangeEnd
    if high.char < low.char then refuse .classRangeOrder span
    return (.range low high, behind)

/-- Read the rest of a class. Every member takes a character, so that `fuel` need not be more than
the number of characters left. -/
def classBody : (fuel : Nat) → OpenClass → Reader → Except Fault (ClassTree × Reader)
  | 0, opened, _ => refuse .classUnclosed opened.opening
  | fuel + 1, opened, reader => do
    let reader := reader.skip
    match reader.rest with
    | [] => refuse .classUnclosed opened.opening
    | c :: _ =>
      if c = ']' then
        let behind := reader.advance 1
        return (.nested (behind.since opened.opening.start) opened.negated opened.body, behind)
      else if c = '[' then
        let (member, behind) ← match reader.namedClass? with
          | some named => pure named
          | none => do
            let (inner, inside) ← reader.openClass
            classBody fuel inner inside
        classBody fuel (opened.push member) behind
      else match setOperations.find? fun operation => reader.sees operation.1 with
        | some (sign, operation) =>
          let behind := reader.advance sign.length
          classBody fuel (opened.combine operation behind.here) behind
        | none =>
          let (member, behind) ← reader.classMember opened.opening c
          classBody fuel (opened.push member) behind

/-- Read a class. The reader stands before the opening bracket. -/
def charClass (reader : Reader) : Except Fault (Tree × Reader) := do
  let (opened, inside) ← reader.openClass
  let (read, behind) ← classBody (inside.rest.length + 1) opened inside
  match read with
  | .nested span negated body => return (.charClass span negated body, behind)
  | other => return (.charClass other.span false other, behind)

end Reader

end Shaderbox.Pattern
