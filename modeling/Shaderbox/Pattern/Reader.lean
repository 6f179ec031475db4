import Shaderbox.Pattern.Tree
import Shaderbox.Text.Blank
import Shaderbox.Text.Letters

/-!
# Reading through a written pattern

A reader stands in a pattern and knows what is left of it. Where blanks are spaced out, it passes
over blanks and over comments, which go from a number sign to the end of the line.
-/

namespace Shaderbox.Pattern

/-- A reader in a pattern. -/
structure Reader where
  /-- What is left to read. -/
  rest : List Char
  /-- How many characters were read. -/
  place : Nat := 0
  /-- Whether blanks and comments count for nothing. -/
  spaced : Bool := false
  /-- Names of groups read so far, with their spans. -/
  names : List (List Char × Span) := []

/-- A part that has no meaning. -/
def refuse {α : Type} (cause : Cause) (span : Span) : Except Fault α :=
  .error (.meaningless cause span)

/-- How many leading characters are blanks or lie in comments. -/
def blankCount (inComment : Bool) : List Char → Nat
  | [] => 0
  | c :: rest =>
    if inComment then blankCount (c != '\n') rest + 1
    else if Text.isBlank c then blankCount false rest + 1
    else if c = '#' then blankCount true rest + 1
    else 0

namespace Reader

variable (reader : Reader)

/-- The reader some characters further. -/
def advance (count : Nat) : Reader :=
  { reader with
    rest := reader.rest.drop count
    place := reader.place + (reader.rest.take count).length }

/-- The reader behind blanks and comments, if they count for nothing. -/
def skip : Reader :=
  if reader.spaced then reader.advance (blankCount false reader.rest) else reader

/-- The reader behind one character and what counts for nothing. -/
def next : Reader := (reader.advance 1).skip

/-- The empty span where the reader stands. -/
def here : Span := ⟨reader.place, reader.place⟩

/-- The span of the character that comes next. -/
def nextSpan : Span := ⟨reader.place, reader.place + 1⟩

/-- The span from a place to the reader. -/
def since (start : Nat) : Span := ⟨start, reader.place⟩

/-- Whether some characters come next. -/
def sees (text : List Char) : Bool := text.isPrefixOf reader.rest

/-- The reader behind some characters, if they come next. -/
def pass? (text : List Char) : Option Reader :=
  if reader.sees text then some (reader.advance text.length) else none

/-- The character behind the next, without blanks. A number sign before it is passed over where
comments count for nothing. -/
def peek? : Option Char :=
  let others := reader.rest.drop 1
  if reader.spaced then
    let visible := others.dropWhile Text.isBlank
    let visible := match visible with
      | '#' :: rest => rest.dropWhile Text.isBlank
      | _ => visible
    visible.head?.or others.head?
  else others.head?

theorem length_advance (count : Nat) :
    (reader.advance count).rest.length = reader.rest.length - count := by
  simp [advance]

theorem length_skip_le : reader.skip.rest.length ≤ reader.rest.length := by
  unfold skip
  split
  · rw [length_advance]
    omega
  · exact Nat.le_refl _

/-- Going on leaves less to read. -/
theorem length_next_lt {c : Char} {rest : List Char} (h : reader.rest = c :: rest) :
    reader.next.rest.length < reader.rest.length := by
  refine Nat.lt_of_le_of_lt (reader.advance 1).length_skip_le ?_
  rw [length_advance, h, List.length_cons]
  omega

/-- The characters up to one that does not satisfy a condition, without those that count for
nothing. -/
def collect (condition : Char → Bool) (reader : Reader) : List Char × Reader :=
  match h : reader.rest with
  | [] => ([], reader)
  | c :: _ =>
    if condition c then
      have := reader.length_next_lt h
      let (collected, behind) := collect condition reader.next
      (c :: collected, behind)
    else ([], reader)
termination_by reader.rest.length

end Reader

/-! ### Numbers -/

/-- The value of a hexadecimal digit. -/
def hexDigit? (c : Char) : Option Nat :=
  if c.isDigit then some (c.toNat - 0x30)
  else if 'a' ≤ c ∧ c ≤ 'f' then some (c.toNat - 0x57)
  else if 'A' ≤ c ∧ c ≤ 'F' then some (c.toNat - 0x37)
  else none

/-- The number that digits stand for. -/
def valueOf (base : Nat) (digits : List Char) : Nat :=
  digits.foldl (fun value digit => value * base + (hexDigit? digit).getD 0) 0

/-- The character with a number, if there is one. -/
def charOf? (number : Nat) : Option Char :=
  if number.isValidChar then some (Char.ofNat number) else none

namespace Reader

variable (reader : Reader)

/-- The reader behind blanks, whether they count or not. -/
def skipBlanks : Reader :=
  reader.advance (reader.rest.takeWhile Text.isBlank).length

/-- Read a decimal number of 32 bits, with blanks around it. The reader behind it is there also if
there is no such number. -/
def decimal : Except Fault Nat × Reader :=
  let begun := reader.skipBlanks
  let (digits, behind) := begun.collect Char.isDigit
  let value := valueOf 10 digits
  let number :=
    if digits.isEmpty then refuse .countEmpty (behind.since begun.place)
    else if value < 4294967296 then .ok value
    else refuse .numberTooLarge (behind.since begun.place)
  (number, (behind.collect Text.isBlank).2)

/-- Read a given number of hexadecimal digits. -/
def hexDigits (reader : Reader) (value : Nat) : Nat → Except Fault (Nat × Reader)
  | 0 => .ok (value, reader)
  | count + 1 =>
    match reader.rest with
    | [] => refuse .escapeUnfinished reader.here
    | c :: _ =>
      match hexDigit? c with
      | none => refuse .hexDigit reader.nextSpan
      | some digit => reader.next.hexDigits (value * 16 + digit) count

/-- Read the number of a character in braces, where the reader stands before the opening one. -/
def bracedHex : Except Fault (Char × Reader) :=
  let opened := reader.place
  let (digits, behind) := reader.next.collect fun c => (hexDigit? c).isSome
  match behind.rest with
  | [] => refuse .escapeUnfinished (behind.since opened)
  | '\x7D' :: _ =>
    let closed := behind.next
    if digits.isEmpty then refuse .hexEmpty (closed.since opened)
    else match charOf? (valueOf 16 digits) with
      | none => refuse .hexNoCharacter (behind.since (opened + 1))
      | some c => .ok (c, closed)
  | _ => refuse .hexDigit behind.nextSpan

/-- Read the number of a character, of which `digits` digits are written without braces. The reader
stands before the letter of the escape. -/
def hexChar (start digits : Nat) : Except Fault (Tree × Reader) := do
  let reader := reader.next
  match reader.rest with
  | [] => refuse .escapeUnfinished reader.here
  | '\x7B' :: _ =>
    let (c, behind) ← reader.bracedHex
    return (.literal ⟨behind.since start, c, false⟩, behind)
  | _ =>
    let (number, behind) ← reader.hexDigits 0 digits
    match charOf? number with
    | none => refuse .hexNoCharacter (behind.since reader.place)
    | some c => return (.literal ⟨behind.since start, c, digits == 2⟩, behind)

end Reader

end Shaderbox.Pattern
