import ReviewPanel.Json.Value
import ReviewPanel.Numeric.Digits

/-!
# Numerals of data texts

A numeral without fraction and exponent that fits 64 bits is an integer. Any
other is a floating-point number, and it is not read exactly: its digits are
gathered into a significand of 64 bits, what no longer fits is dropped, and
the significand is multiplied or divided once by a rounded power of ten, or
in steps when the power has no number of its own.
-/

namespace ReviewPanel.Json

open Numeric

/-- The parts of a numeral. -/
structure Numeral where
  negative : Bool
  whole : List Char
  fraction : List Char
  /-- The sign (`true` for positive) and the digits of the exponent. -/
  exponent : Option (Bool × List Char)
  /-- Whether a point or an exponent occurs. -/
  isInteger : Bool
  deriving Repr

/-- The significands are below this bound. -/
def significandBound : Nat := Nat.pow 2 64

/-- Gathers digits while they fit; returns the significand and the digits left. -/
def gather (significand : Nat) : List Char → Nat × List Char
  | [] => (significand, [])
  | c :: rest =>
    let next := significand * 10 + decimalValue c
    if next < significandBound then gather next rest else (significand, c :: rest)

/-- The greatest power of ten that is a finite number. -/
def greatestPower : Nat := 308

def powerOfTen (n : Nat) : Binary := Binary.ofNat .double (Nat.pow 10 n)

/-- `x * 10 ^ exponent`, in steps of the greatest power; none when it is too large. -/
def scaleByPower (x : Binary) (exponent : Int) : Nat → Option Binary
  | 0 => some x
  | fuel + 1 =>
    if exponent.natAbs ≤ greatestPower then
      if 0 ≤ exponent then
        let y := Binary.mul .double x (powerOfTen exponent.natAbs)
        if y.isFinite then some y else none
      else some (Binary.div .double x (powerOfTen exponent.natAbs))
    else if x.isZero then some x
    else if 0 ≤ exponent then none
    else scaleByPower (Binary.div .double x (powerOfTen greatestPower))
      (exponent + greatestPower) fuel

/-- A significand of 64 bits vanishes after fewer steps than this. -/
def scaleSteps : Nat := 4

/-- The exponent of a numeral is below this bound in size. -/
def exponentBound : Nat := Nat.pow 2 31

/-- The floating-point number of a significand and a power of ten. -/
def ofParts (negative : Bool) (significand : Nat) (exponent : Int) : Option Number :=
  (scaleByPower (Binary.ofNat .double significand) exponent scaleSteps).map fun x =>
    .double (if negative then x.negate else x)

/-- The number of a numeral; none when it is too large. -/
def Numeral.value? (n : Numeral) : Option Number :=
  let (significand, left) := gather 0 n.whole
  if n.isInteger && left.isEmpty then
    if !n.negative then some (.integer significand)
    else if significand = 0 ∨ Nat.pow 2 63 < significand then ofParts true significand 0
    else some (.integer (-Int.ofNat significand))
  else
    let (significand, unread) := gather significand n.fraction
    let shift : Int := Int.ofNat left.length - Int.ofNat (n.fraction.length - unread.length)
    match n.exponent with
    | none => ofParts n.negative significand shift
    | some (positive, digits) =>
      let size := digitsToNat digits
      if exponentBound ≤ size then
        if positive && significand != 0 then none else ofParts n.negative 0 0
      else ofParts n.negative significand (if positive then shift + size else shift - size)

end ReviewPanel.Json
