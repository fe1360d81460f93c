import ReviewPanel.Numeric.Binary

/-!
# Shortest decimals

The shortest decimal of a floating-point number has the fewest digits among
the decimals that round to it, and is the nearest to it among those; an exact
tie goes to the even digit. The decimals that round to a number fill the
interval up to half-way to its neighbours, the ends included when its
mantissa is even.

Two layouts write such a decimal: `Decimal.plain` is positional throughout,
`Decimal.scientific` turns to an exponent outside a range of magnitudes.
-/

namespace ReviewPanel.Numeric

/-- The decimal number `coefficient * 10 ^ exponent`. -/
structure Decimal where
  coefficient : Nat
  exponent : Int
  deriving Repr, DecidableEq

/-- The interval of the quotients that round to `m * 2 ^ e`, over one denominator. -/
structure RoundingInterval where
  low : Nat
  value : Nat
  high : Nat
  den : Nat
  endsIncluded : Bool
  deriving Repr

def RoundingInterval.of (f : Format) (m : Nat) (e : Int) : RoundingInterval :=
  -- below a power of two the lower neighbour is only half as far away
  let below := if m = Nat.pow 2 (f.precision - 1) ∧ f.lowest < e then 1 else 2
  let (scale, den) := if 2 ≤ e then (Nat.pow 2 (e - 2).toNat, 1) else (1, Nat.pow 2 (2 - e).toNat)
  { low := (4 * m - below) * scale
    value := 4 * m * scale
    high := (4 * m + 2) * scale
    den
    endsIncluded := m % 2 = 0 }

/-- Whether `c * unit / part` rounds to the number of the interval. -/
def RoundingInterval.admits (i : RoundingInterval) (c unit part : Nat) : Bool :=
  let x := c * unit * i.den
  if i.endsIncluded then i.low * part ≤ x && x ≤ i.high * part
  else i.low * part < x && x < i.high * part

/-- The number of decimal digits of a natural. -/
def decimalLength (n : Nat) : Nat := (Nat.toDigits 10 n).length

/-- The position `n` with `10 ^ (n - 1) ≤ num / den < 10 ^ n`. -/
def decimalMagnitude (num den : Nat) : Int :=
  if den ≤ num then decimalLength (num / den)
  else
    let t := decimalLength (den / num) - 1
    if den ≤ num * Nat.pow 10 t then 1 - Int.ofNat t else -Int.ofNat t

/-- Of the two multiples of `10 ^ exponent` around the number, the nearest
that rounds to it. -/
def RoundingInterval.onGrid? (i : RoundingInterval) (exponent : Int) : Option Decimal :=
  let (unit, part) :=
    if 0 ≤ exponent then (Nat.pow 10 exponent.toNat, 1) else (1, Nat.pow 10 (-exponent).toNat)
  let num := i.value * part
  let den := i.den * unit
  let c := num / den
  let r := num % den
  let lower := i.admits c unit part
  let upper := i.admits (c + 1) unit part
  let nearUpper := den < 2 * r || (2 * r == den && c % 2 == 1)
  if upper && (nearUpper || !lower) then some ⟨c + 1, exponent⟩
  else if lower then some ⟨c, exponent⟩
  else none

/-- The grids of 1, 2, … digits, the first that holds an admitted decimal. -/
def RoundingInterval.search (i : RoundingInterval) (magnitude : Int) : Nat → Nat → Decimal
  | _, 0 => ⟨0, 0⟩
  | digits, fuel + 1 =>
    match i.onGrid? (magnitude - digits) with
    | some d => d
    | none => i.search magnitude (digits + 1) fuel

/-- Drops trailing zeros of a coefficient into the exponent. -/
def Decimal.normalize (d : Decimal) : Nat → Decimal
  | 0 => d
  | fuel + 1 =>
    if d.coefficient ≠ 0 ∧ d.coefficient % 10 = 0 then
      Decimal.normalize ⟨d.coefficient / 10, d.exponent + 1⟩ fuel
    else d

/-- The shortest decimal of `m * 2 ^ e`; twenty digits are more than any
format here needs. -/
def shortestDecimal (f : Format) (m : Nat) (e : Int) : Decimal :=
  if m = 0 then ⟨0, 0⟩
  else
    let i := RoundingInterval.of f m e
    (i.search (decimalMagnitude i.value i.den) 1 20).normalize 20

/-- A number in decimal digits. -/
def digitsOf (n : Nat) : String := String.ofList (Nat.toDigits 10 n)

/-- The first `n` characters and the rest, with a point between. -/
def pointAfter (digits : String) (n : Nat) : String :=
  String.ofList (digits.toList.take n) ++ "." ++ String.ofList (digits.toList.drop n)

def zeros (n : Nat) : String := String.ofList (List.replicate n '0')

/-- Positional digits, with a point only where a fraction follows. -/
def Decimal.plain (d : Decimal) : String :=
  let digits := digitsOf d.coefficient
  let length : Int := digits.length
  if 0 ≤ d.exponent then digits ++ zeros d.exponent.toNat
  else if 0 < length + d.exponent then pointAfter digits (length + d.exponent).toNat
  else "0." ++ zeros (-(length + d.exponent)).toNat ++ digits

/-- Where a layout leaves positional notation: the greatest number of digits
before the point, and of zeros after it. -/
structure ExponentRule where
  wholeDigits : Int
  leadingZeros : Int
  deriving Repr, DecidableEq

/-- Digits with a fraction or an exponent, so that the text never reads as an
integer. -/
def Decimal.scientific (rule : ExponentRule) (d : Decimal) : String :=
  let digits := digitsOf d.coefficient
  let length : Int := digits.length
  let point := length + d.exponent
  if d.coefficient = 0 then "0.0"
  else if 0 ≤ d.exponent ∧ point ≤ rule.wholeDigits then digits ++ zeros d.exponent.toNat ++ ".0"
  else if 0 < point ∧ point ≤ rule.wholeDigits then pointAfter digits point.toNat
  else if -rule.leadingZeros < point ∧ point ≤ 0 then "0." ++ zeros (-point).toNat ++ digits
  else
    let mark := if point ≤ 0 then "e-" else "e"
    let size := digitsOf (point - 1).natAbs
    (if length = 1 then digits else pointAfter digits 1) ++ mark ++ size

/-- Positional notation holds up to sixteen whole digits in the wide format. -/
def ExponentRule.double : ExponentRule := ⟨16, 5⟩

/-- Positional notation holds up to thirteen whole digits in the narrow format. -/
def ExponentRule.single : ExponentRule := ⟨13, 6⟩

namespace Binary

/-- Positional text, without a fraction when there is none. -/
def plainText (f : Format) : Binary → String
  | .finite s m e => (if s then "-" else "") ++ (shortestDecimal f m e).plain
  | .infinite s => if s then "-inf" else "inf"
  | .notANumber => "NaN"

/-- Text with a fraction or an exponent; none for a number that is not finite. -/
def dataText? (f : Format) (rule : ExponentRule) : Binary → Option String
  | .finite s m e => some ((if s then "-" else "") ++ (shortestDecimal f m e).scientific rule)
  | _ => none

end Binary

end ReviewPanel.Numeric
