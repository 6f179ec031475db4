import Shaderbox.Pattern.Class

/-!
# Reading written patterns

A pattern is read from left to right, and the first fault ends that. Groups are read by recursion;
every part takes a character, so that the number of characters bounds the recursion.
-/

namespace Shaderbox.Pattern

/-- Modes and negations as they are written, with their spans. -/
abbrev ModeItems := List (Option Mode × Span)

/-- The changes that written modes make: those behind the negation are switched off. -/
def ModeItems.changes (items : ModeItems) : ModeChanges :=
  let before := items.takeWhile (·.1.isSome)
  let behind := items.drop before.length
  before.filterMap (fun item => item.1.map (·, true)) ++
    behind.filterMap (fun item => item.1.map (·, false))

/-- Read modes up to a colon or a closing parenthesis. -/
def readModes (place : Nat) (items : ModeItems) : List Char → Except Fault ModeItems
  | [] => refuse .modeUnfinished ⟨place, place⟩
  | c :: rest => do
    let span : Span := ⟨place, place + 1⟩
    if c = ':' ∨ c = ')' then
      match items.getLast? with
      | some (none, last) => refuse .modeDanglingNegation last
      | _ => return items
    else
      let item ← if c = '-' then pure none else match Mode.ofLetter? c with
        | some mode => pure (some mode)
        | none => refuse .modeUnknown span
      match items.find? (·.1 == item) with
      | some (_, earlier) =>
        let cause := if item.isNone then Cause.modeNegatedTwice else .modeRepeated
        .error (.meaningless cause span (some earlier))
      | none => readModes (place + 1) (items ++ [(item, span)]) rest

/-- How many leading characters can be the name of a group: a letter or an underscore, and letters,
numerals and some signs behind it. -/
def nameLength : List Char → Nat
  | [] => 0
  | first :: rest =>
    if first = '_' ∨ Text.isLetter first then
      1 + (rest.takeWhile fun c =>
        ['_', '.', '[', ']'].contains c || Text.isLetter c || Text.isNumeral c).length
    else 0

/-- What a parenthesis opens. -/
inductive Opening where
  /-- A change of modes, and nothing else. -/
  | modes (span : Span) (changes : ModeChanges)
  /-- A group that begins with the given span. -/
  | group (span : Span) (changes : ModeChanges)

namespace Reader

/-- Read the name of a group and remember it. -/
def groupName (reader : Reader) : Except Fault Reader :=
  let name := reader.rest.take (nameLength reader.rest)
  let behind := reader.advance name.length
  let span := behind.since reader.place
  match behind.rest with
  | [] => refuse .nameUnclosed behind.here
  | c :: _ =>
    if c ≠ '>' then refuse .nameCharacter behind.nextSpan
    else if name.isEmpty then refuse .nameEmpty span
    else match reader.names.lookup name with
      | some earlier => .error (.meaningless .nameRepeated span (some earlier))
      | none => .ok { behind.advance 1 with names := (name, span) :: reader.names }

/-- The reader behind a sign that would begin a look around. -/
def lookAround? (reader : Reader) : Option Reader :=
  (["?=", "?!", "?<=", "?<!"].map String.toList).findSome? reader.pass?

/-- Read what a parenthesis opens. -/
def opening (reader : Reader) : Except Fault (Opening × Reader) := do
  let span := reader.nextSpan
  let inside := reader.next
  if let some behind := inside.lookAround? then refuse .lookAround (behind.since span.start)
  match (inside.pass? ['?', 'P', '<']).or (inside.pass? ['?', '<']) with
  | some inside => return (.group span [], ← inside.groupName)
  | none =>
    match inside.pass? ['?'] with
    | none => return (.group span [], inside)
    | some marked =>
      if marked.rest.isEmpty then refuse .groupUnclosed span
      let items ← readModes marked.place [] marked.rest
      let behind := marked.advance items.length
      let closed := behind.advance 1
      if behind.sees [')'] then
        if items.isEmpty then refuse .nothingToRepeat inside.here
        return (.modes (closed.since span.start) items.changes, closed)
      return (.group span items.changes, closed)

/-- The reader with blanks and comments counting as changes of modes say. -/
def spacedBy (changes : ModeChanges) (reader : Reader) : Reader :=
  { reader with spaced := (changes.lookup .spaced).getD reader.spaced }

/-- Read a part of a pattern that is neither a group nor a repetition. -/
def part (reader : Reader) (c : Char) : Except Fault (Tree × Reader) :=
  let behind := reader.advance 1
  match c with
  | '[' => reader.charClass
  | '\\' => reader.escape
  | '.' => .ok (.dot reader.nextSpan, behind)
  | '^' => .ok (.anchor reader.nextSpan .lineStart, behind)
  | '$' => .ok (.anchor reader.nextSpan .lineEnd, behind)
  | c => .ok (.literal (reader.verbatim c), behind)

/-- The bounds that the sign of a repetition stands for. -/
def repetitionSign? : Char → Option (Nat × Option Nat)
  | '?' => some (0, some 1)
  | '*' => some (0, none)
  | '+' => some (1, none)
  | _ => none

/-- The reader behind a question mark, if one comes next: the repetition prefers fewer texts. -/
def passLazy (reader : Reader) : Reader :=
  (reader.pass? ['?']).getD reader

/-- Read the bounds of a repetition in braces. The reader stands before the opening one. -/
def bounds (reader : Reader) : Except Fault ((Nat × Option Nat) × Reader) := do
  let start := reader.place
  let inside := reader.next
  if inside.rest.isEmpty then refuse .countUnclosed (inside.since start)
  let (least, behind) := inside.decimal
  if behind.rest.isEmpty then refuse .countUnclosed (behind.since start)
  let ((least, most), behind) ←
    if behind.sees [','] then do
      let behind := behind.next
      if behind.rest.isEmpty then refuse .countUnclosed (behind.since start)
      if behind.sees ['\x7D'] then pure ((← least, none), behind)
      else
        let least ← least
        let (most, behind) := behind.decimal
        pure ((least, some (← most)), behind)
    else do
      let count ← least
      pure ((count, some count), behind)
  if !behind.sees ['\x7D'] then refuse .countUnclosed (behind.since start)
  let behind := behind.next.passLazy
  if most.any (· < least) then refuse .countOrder (behind.since start)
  return ((least, most), behind)

/-- Read the sign of a repetition or its bounds in braces, where one comes next. -/
def repetition? (reader : Reader) (c : Char) :
    Option (Except Fault ((Nat × Option Nat) × Reader)) :=
  if c = '\x7B' then some reader.bounds
  else (repetitionSign? c).map fun bounds => .ok (bounds, (reader.advance 1).passLazy)

end Reader

/-- The part of a group that was read. -/
structure OpenBody where
  /-- Where the group's contents begin. -/
  start : Nat
  /-- Branches that have ended, the latest first. -/
  branches : List Tree := []
  /-- Where the last branch begins. -/
  branchStart : Nat := start
  /-- Parts of the last branch, the latest first. -/
  parts : List Tree := []

namespace OpenBody

/-- With another part. -/
def push (part : Tree) (body : OpenBody) : OpenBody :=
  { body with parts := part :: body.parts }

/-- The last branch, which ends at a place. -/
def branch (place : Nat) (body : OpenBody) : Tree :=
  .ofParts ⟨body.branchStart, place⟩ body.parts.reverse

/-- With another branch, behind one that ends at a place. -/
def divide (place : Nat) (body : OpenBody) : OpenBody :=
  { body with
    branches := body.branch place :: body.branches, branchStart := place + 1, parts := [] }

/-- All that was read, which ends at a place. -/
def tree (place : Nat) (body : OpenBody) : Tree :=
  if body.branches.isEmpty then body.branch place
  else .branches ⟨body.start, place⟩ (body.branch place :: body.branches).reverse

/-- The last part, taken away to be repeated. -/
def takeLast (here : Span) (body : OpenBody) : Except Fault (Tree × OpenBody) :=
  match body.parts with
  | [] => refuse .nothingToRepeat here
  | .modes .. :: _ => refuse .nothingToRepeat here
  | last :: before => .ok (last, { body with parts := before })

end OpenBody

namespace Reader

/-- Read up to a parenthesis that closes nothing here, or to the end. -/
def body : (fuel : Nat) → OpenBody → Reader → Except Fault (Tree × Reader)
  | 0, read, reader => .ok (read.tree reader.place, reader)
  | fuel + 1, read, reader => do
    let reader := reader.skip
    match reader.rest with
    | [] => return (read.tree reader.place, reader)
    | c :: _ =>
      if c = ')' then return (read.tree reader.place, reader)
      else if c = '|' then body fuel (read.divide reader.place) (reader.advance 1)
      else if c = '(' then
        match ← reader.opening with
        | (.modes span changes, behind) =>
          body fuel (read.push (.modes span changes)) (behind.spacedBy changes)
        | (.group span changes, inside) =>
          let (contents, inside) ← body fuel { start := inside.place } (inside.spacedBy changes)
          if inside.rest.isEmpty then refuse .groupUnclosed span
          let behind := { inside.advance 1 with spaced := reader.spaced }
          body fuel (read.push (.group (behind.since span.start) changes contents)) behind
      else match reader.repetition? c with
        | some bounds =>
          let (last, before) ← read.takeLast reader.here
          let ((least, most), behind) ← bounds
          let span := behind.since last.span.start
          body fuel (before.push (.repeated span least most last)) behind
        | none =>
          let (part, behind) ← reader.part c
          body fuel (read.push part) behind

end Reader

/-- Read a written pattern. -/
def Tree.read (pattern : List Char) : Except Fault Tree := do
  let (tree, reader) ← Reader.body (pattern.length + 1) { start := 0 } { rest := pattern }
  if !reader.rest.isEmpty then refuse .groupUnopened reader.nextSpan
  match tree.tooDeep? nestingLimit with
  | some span => refuse (.nestedTooDeep nestingLimit) span
  | none => return tree

end Shaderbox.Pattern
