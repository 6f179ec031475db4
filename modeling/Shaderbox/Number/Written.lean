import Shaderbox.Number.Shortest

/-!
# Single-precision numbers in text

Messages print a number with its shortest digits, always positionally. Inspected values keep a
`.0` and change to exponents below `10 ^ -4` and from `10 ^ 16` on.
-/

namespace Shaderbox.Number

/-- How a number is laid out. -/
structure Layout where
  /-- Least and greatest exponent of the leading digit that is written positionally; every
  exponent is, when there are none. -/
  positional : Option (Int × Int)
  /-- Whether a whole number ends in `.0`. -/
  keepsPoint : Bool

/-- Numbers in messages. -/
def plain : Layout := ⟨none, false⟩

/-- Numbers in inspected values. -/
def inspected : Layout := ⟨some (-4, 15), true⟩

/-- What the bits of a single-precision number stand for. -/
inductive Single where
  | nan
  | infinite (negative : Bool)
  | zero (negative : Bool)
  | finite (negative : Bool) (magnitude : Binary)
deriving DecidableEq

/-- Take the sign, exponent and fraction fields apart. -/
def Single.ofBits (bits : Nat) : Single :=
  let negative := bits / 0x80000000 == 1
  let exponent : Nat := bits / 0x800000 % 0x100
  let fraction : Nat := bits % 0x800000
  if exponent = 255 then if fraction = 0 then .infinite negative else .nan
  else if exponent = 0 then
    if fraction = 0 then .zero negative else .finite negative ⟨fraction, -149, false⟩
  else .finite negative ⟨fraction + 0x800000, (exponent : Int) - 150, fraction = 0 ∧ exponent ≠ 1⟩

/-- The digits of a decimal around its point. -/
def Layout.positionalText (layout : Layout) (x : Decimal) : String :=
  let digits := Nat.toDigits 10 x.digits
  let ending := if layout.keepsPoint then ".0" else ""
  let whole := fun digits : List Char => String.ofList digits ++ ending
  if 0 ≤ x.exponent then whole (digits ++ List.replicate x.exponent.toNat '0')
  else
    let places := (-x.exponent).toNat
    let padded := List.replicate (places + 1 - digits.length) '0' ++ digits
    let point := padded.length - places
    String.ofList (padded.take point ++ '.' :: padded.drop point)

/-- The digits of a decimal with a power of ten. -/
def exponentText (x : Decimal) : String :=
  let digits := Nat.toDigits 10 x.digits
  let leading := x.exponent + (digits.length - 1 : Nat)
  let fraction := if digits.length ≤ 1 then [] else '.' :: digits.drop 1
  String.ofList (digits.take 1 ++ fraction) ++ "e" ++ toString leading

/-- A positive decimal in a layout. -/
def Layout.magnitudeText (layout : Layout) (x : Decimal) : String :=
  let leading := x.exponent + ((Nat.toDigits 10 x.digits).length - 1 : Nat)
  match layout.positional with
  | none => layout.positionalText x
  | some (least, greatest) =>
    if least ≤ leading ∧ leading ≤ greatest then layout.positionalText x else exponentText x

/-- A number in a layout. -/
def Layout.text (layout : Layout) (x : Float32) : String :=
  let signed := fun (negative : Bool) (text : String) => if negative then "-" ++ text else text
  match Single.ofBits x.toBits.toNat with
  | .nan => "NaN"
  | .infinite negative => signed negative "inf"
  | .zero negative => signed negative (layout.positionalText ⟨0, 0⟩)
  | .finite negative magnitude => signed negative (layout.magnitudeText magnitude.shortest)

end Shaderbox.Number
