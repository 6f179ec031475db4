import Shaderbox.Pattern.Reading

/-!
# What written patterns mean

The meaning of a written part depends on the modes in force, which a part can change for what stands
behind it in the same group. A pattern describes characters, or octets where that mode is off; an
octet must then be a character of its own, which is so for ASCII only.

Some meanings need tables of all scripts: the classes that have a one-letter escape, properties, and
letters in capitals or not. There are no such tables, so that these parts have none, except for
octets.
-/

namespace Shaderbox.Pattern

/-- The modes that bear on what a pattern describes. -/
structure Modes where
  anyCase : Bool := false
  severalLines : Bool := false
  dotTakesBreaks : Bool := false
  unicode : Bool := true
  anyBreak : Bool := false
deriving DecidableEq, Repr

namespace Modes

/-- Switch a mode on or off. -/
def set (modes : Modes) (change : Mode × Bool) : Modes :=
  match change.1 with
  | .anyCase => { modes with anyCase := change.2 }
  | .severalLines => { modes with severalLines := change.2 }
  | .dotTakesBreaks => { modes with dotTakesBreaks := change.2 }
  | .unicode => { modes with unicode := change.2 }
  | .anyBreak => { modes with anyBreak := change.2 }
  | .lazyFirst => modes
  | .spaced => modes

/-- The modes after changes. -/
def change (modes : Modes) (changes : ModeChanges) : Modes :=
  changes.foldl set modes

/-- What an anchor asks for. -/
def assertion (modes : Modes) : Anchor → Assertion
  | .lineStart =>
    if !modes.severalLines then .textStart
    else if modes.anyBreak then .lineStartAnyBreak
    else .lineStart
  | .lineEnd =>
    if !modes.severalLines then .textEnd
    else if modes.anyBreak then .lineEndAnyBreak
    else .lineEnd
  | .textStart => .textStart
  | .textEnd => .textEnd
  | .word place => .word place modes.unicode

/-- What a dot stands for, all but line breaks unless it takes these too. -/
def dot (modes : Modes) : CharSet :=
  if modes.dotTakesBreaks then .all
  else if modes.anyBreak then .complement (.ofList ['\r', '\n'])
  else .complement (.single '\n')

/-- The character that a literal means. -/
def char (modes : Modes) (l : Literal) : Except Fault Char :=
  if !modes.unicode && l.octet && 0x80 ≤ l.char.toNat then refuse .invalidEncoding l.span
  else .ok l.char

/-- The characters that a literal means outside classes. -/
def literal (modes : Modes) (l : Literal) : Except Fault CharSet := do
  let c ← modes.char l
  if !modes.anyCase then return .single c
  else if modes.unicode then refuse .anyCaseUnavailable l.span
  else return if c.isAlpha then .anyCase (.single c) else .single c

/-- The character that a literal means in a class, which is ASCII if the class is one of octets. -/
def member (modes : Modes) (l : Literal) : Except Fault Char := do
  let c ← modes.char l
  if !modes.unicode && 0x80 ≤ c.toNat then refuse .notInOctets l.span
  return c

/-- The characters that a shorthand means. -/
def shorthand (modes : Modes) (span : Span) (kind : Shorthand) (negated : Bool) :
    Except Fault CharSet :=
  if modes.unicode then refuse .shorthandUnavailable span
  else if negated then refuse .invalidEncoding span
  else .ok kind.members

end Modes

/-- Names of properties that are values of a known property, in small letters. -/
def valueNames : List String := ["cf", "sc", "lc"]

/-- The name of a property without what does not count in it: capitals, blanks, hyphens, underscores,
and the word that many names begin with. -/
def plainName (name : List Char) : List Char :=
  let small := name.map Char.toLower
  let small := if ['i', 's'].isPrefixOf small then small.drop 2 else small
  small.filter fun c => c.toNat < 0x80 && !([' ', '_', '-'].contains c)

/-- Properties of characters have no meaning. -/
def refuseProperty {α : Type} (modes : Modes) (span : Span) (name : Option (List Char)) :
    Except Fault α :=
  if !modes.unicode then refuse .notInOctets span
  else if name.any fun name => valueNames.contains (String.ofList (plainName name)) then
    refuse .propertyValueUnknown span
  else refuse .propertyUnknown span

/-- The characters of a class, and whether any were written. -/
structure Members where
  set : CharSet := .none
  written : Bool := false

namespace Members

/-- With other characters. -/
def add (set : CharSet) (members : Members) : Members :=
  ⟨.union members.set set, true⟩

/-- With the members of another class. -/
def join (other members : Members) : Members :=
  ⟨.union members.set other.set, members.written || other.written⟩

/-- The members in capitals or not, if that mode is on. -/
def fold (modes : Modes) (span : Span) (members : Members) : Except Fault Members :=
  if !modes.anyCase then .ok members
  else if modes.unicode then
    if members.written then refuse .anyCaseUnavailable span else .ok members
  else .ok { members with set := .anyCase members.set }

/-- The members of a class, or all others if it is negated. -/
def close (modes : Modes) (span : Span) (negated : Bool) (members : Members) :
    Except Fault Members := do
  let members ← members.fold modes span
  if negated && !modes.unicode then refuse .invalidEncoding span
  return { members with set := members.set.negatedIf negated }

end Members

mutual

/-- The members of a class with those that are written in a part of it. -/
def ClassTree.addTo (modes : Modes) (members : Members) : ClassTree → Except Fault Members
  | .empty _ => return members
  | .literal l => return members.add (.single (← modes.member l))
  | .range first last => return members.add (.range (← modes.member first) (← modes.member last))
  | .named span name negated => do
    let named ← Members.close modes span negated ⟨name.members, true⟩
    return members.join named
  | .shorthand span kind negated => return members.add (← modes.shorthand span kind negated)
  | .property span name => refuseProperty modes span name
  | .nested span negated body => do
    let inner ← body.addTo modes {}
    return members.join (← inner.close modes span negated)
  | .union _ items => ClassTree.addAllTo modes members items
  | .combined operation left right => do
    let first ← left.addTo modes {}
    let second ← right.addTo modes {}
    let second ← second.fold modes right.span
    let first ← first.fold modes left.span
    return members.join ⟨operation.apply first.set second.set, first.written || second.written⟩

/-- The members of a class with those that are written in parts of it. -/
def ClassTree.addAllTo (modes : Modes) (members : Members) :
    List ClassTree → Except Fault Members
  | [] => return members
  | item :: rest => do ClassTree.addAllTo modes (← item.addTo modes members) rest

end

mutual

/-- What a written pattern means, and the modes behind it. -/
def Tree.meaning (modes : Modes) : Tree → Except Fault (Pattern × Modes)
  | .empty _ => return (.empty, modes)
  | .modes _ changes => return (.empty, modes.change changes)
  | .literal l => return (.char (← modes.literal l), modes)
  | .dot span =>
    if modes.unicode then return (.char modes.dot, modes) else refuse .invalidEncoding span
  | .anchor _ place => return (.assert (modes.assertion place), modes)
  | .shorthand span kind negated => return (.char (← modes.shorthand span kind negated), modes)
  | .property span name => refuseProperty modes span name
  | .charClass span negated body => do
    let members ← body.addTo modes {}
    return (.char (← members.close modes span negated).set, modes)
  | .repeated _ least most body => do
    let (body, modes) ← body.meaning modes
    return (repetition least most body, modes)
  | .group _ changes body => do
    let (body, _) ← body.meaning (modes.change changes)
    return (body, modes)
  | .branches _ parts => do
    let (choices, modes) ← Tree.meanings modes parts
    return (ofChoice choices, modes)
  | .sequence _ parts => do
    let (meanings, modes) ← Tree.meanings modes parts
    return (ofSequence meanings, modes)

/-- What parts mean one after the other. -/
def Tree.meanings (modes : Modes) : List Tree → Except Fault (List Pattern × Modes)
  | [] => return ([], modes)
  | first :: rest => do
    let (first, modes) ← first.meaning modes
    let (rest, modes) ← Tree.meanings modes rest
    return (first :: rest, modes)

end

/-- The octets that the automaton for a pattern may take. -/
def weightLimit : Nat := 10485760

/-- Read a pattern. -/
def read (text : List Char) : Except Fault Pattern := do
  let (pattern, _) ← (← Tree.read text).meaning {}
  if weightLimit < pattern.weight then .error (.tooLarge weightLimit)
  else if pattern.needsAllScripts then .error .unknownWords
  else return pattern

end Shaderbox.Pattern
