/-!
# Text without terminal control

A text that does not go to a terminal loses what only a terminal understands: escape sequences, and
the control characters that do not separate words or lines. White space is kept also inside a
sequence and suspends it: what follows shows, until the next control character takes the sequence
up again where it stood.
-/

namespace Shaderbox.Text

/-- How far an escape sequence has come. -/
inductive Sequence where
  /-- There is none. -/
  | none
  /-- The escape character was read. -/
  | escape
  | escapeIntermediate
  /-- A control sequence began. -/
  | control
  | controlParameter
  | controlIntermediate
  | controlIgnored
  /-- A device control string began. -/
  | device
  | deviceParameter
  | deviceIntermediate
  | deviceIgnored
  | deviceData
  /-- A command for the operating system began. -/
  | command
  /-- A string of another kind began. -/
  | other
deriving DecidableEq, Repr

namespace Sequence

/-- Whether white space shows inside the sequence. -/
def showsBlanks : Sequence → Bool
  | none | escape | escapeIntermediate | control | controlParameter | controlIntermediate
  | controlIgnored => true
  | device | deviceParameter | deviceIntermediate | deviceIgnored | deviceData | command
  | other => false

/-- What a printing character below the delete character does to a sequence. -/
def afterPrinting (sequence : Sequence) (code : Nat) : Sequence :=
  let intermediate := code < 0x30
  let parameter := code < 0x40
  match sequence with
  | none => none
  | escape =>
    if intermediate then escapeIntermediate
    else if code = 0x5B then control
    else if code = 0x5D then command
    else if code = 0x50 then device
    else if code = 0x58 ∨ code = 0x5E ∨ code = 0x5F then other
    else none
  | escapeIntermediate => if intermediate then escapeIntermediate else none
  | control =>
    if intermediate then controlIntermediate else if parameter then controlParameter else none
  | controlParameter =>
    if intermediate then controlIntermediate
    else if code < 0x3C then controlParameter
    else if parameter then controlIgnored
    else none
  | controlIntermediate =>
    if intermediate then controlIntermediate else if parameter then controlIgnored else none
  | controlIgnored => if parameter then controlIgnored else none
  | device =>
    if intermediate then deviceIntermediate else if parameter then deviceParameter else deviceData
  | deviceParameter =>
    if intermediate then deviceIntermediate
    else if code < 0x3C then deviceParameter
    else if parameter then deviceIgnored
    else deviceData
  | deviceIntermediate =>
    if intermediate then deviceIntermediate else if parameter then deviceIgnored else deviceData
  | deviceIgnored => deviceIgnored
  | deviceData => deviceData
  | command => command
  | other => other

/-- What a control character does to a sequence: two of them cancel it, the escape character begins
another, and the bell ends a command. -/
def afterControl (sequence : Sequence) (code : Nat) : Sequence :=
  if code = 0x18 ∨ code = 0x1A then none
  else if code = 0x1B then escape
  else if code = 0x07 ∧ sequence = command then none
  else sequence

/-- What a character beyond ASCII does to a sequence: the octet of the string terminator ends
strings, though not commands. -/
def afterWide (sequence : Sequence) (c : Char) : Sequence :=
  match sequence with
  | deviceIgnored | deviceData | other =>
    if (String.utf8EncodeChar c).contains 0x9C then none else sequence
  | _ => sequence

end Sequence

/-- What reads a text for a terminal: the sequence that it is in, and whether white space suspended
that. -/
structure Terminal where
  sequence : Sequence := .none
  suspended : Bool := false
deriving DecidableEq

namespace Terminal

/-- Whether printing characters show. -/
def shows (terminal : Terminal) : Bool :=
  terminal.suspended || terminal.sequence == .none

/-- Read a character and tell whether it shows. -/
def step (terminal : Terminal) (c : Char) : Bool × Terminal :=
  let code := c.toNat
  if code ≥ 0x80 then
    if terminal.shows then (true, {})
    else (false, { terminal with sequence := terminal.sequence.afterWide c })
  else if 0x20 ≤ code ∧ code < 0x7F then
    if terminal.shows then (true, terminal)
    else (false, { terminal with sequence := terminal.sequence.afterPrinting code })
  else if c = '\t' ∨ c = '\n' ∨ c = '\x0C' ∨ c = '\r' then
    if terminal.sequence.showsBlanks then
      (true, { terminal with suspended := terminal.sequence != .none })
    else (false, terminal)
  else (false, ⟨terminal.sequence.afterControl code, false⟩)

/-- The characters that show. -/
def shown (terminal : Terminal) : List Char → List Char
  | [] => []
  | c :: rest =>
    let (visible, next) := terminal.step c
    if visible then c :: next.shown rest else next.shown rest

end Terminal

/-- A text without terminal control. -/
def withoutControl (text : List Char) : List Char :=
  Terminal.shown {} text

end Shaderbox.Text
