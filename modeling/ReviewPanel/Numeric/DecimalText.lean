import ReviewPanel.Numeric.Binary
import ReviewPanel.Numeric.Digits

/-!
# Reading decimals

The floating-point number nearest to a decimal, and the plain numerals that
denote decimals: digits with an optional point, at least one digit on either
side of it, and an optional exponent.
-/

namespace ReviewPanel.Numeric

/-- Decimals of this magnitude or more are beyond every number of 64 bits. -/
def overflowMagnitude : Int := 310

/-- Decimals of this magnitude or less vanish. -/
def underflowMagnitude : Int := -330

/-- The number of 64 bits nearest to `coefficient * 10 ^ exponent`. -/
def Binary.ofDecimal (negative : Bool) (coefficient : Nat) (exponent : Int) : Binary :=
  let magnitude := (Nat.toDigits 10 coefficient).length + exponent
  if coefficient = 0 ∨ magnitude ≤ underflowMagnitude then .zero .double negative
  else if overflowMagnitude ≤ magnitude then .infinite negative
  else if 0 ≤ exponent then
    .ofQuotient .double negative (coefficient * Nat.pow 10 exponent.toNat) 1
  else .ofQuotient .double negative coefficient (Nat.pow 10 (-exponent).toNat)

/-- The sign of a numeral and what follows it. -/
def splitSign : List Char → Bool × List Char
  | '+' :: rest => (false, rest)
  | '-' :: rest => (true, rest)
  | cs => (false, cs)

/-- The exponent at the end of a numeral; zero where the numeral has ended. -/
def exponentOf? : List Char → Option Int
  | [] => some 0
  | c :: rest =>
    if c = 'e' ∨ c = 'E' then
      let (negative, digits) := splitSign rest
      if digits.isEmpty || !digits.all Char.isDigit then none
      else
        let size : Int := digitsToNat digits
        some (if negative then -size else size)
    else none

/-- The number that a plain numeral denotes. -/
def Binary.ofNumeral? (text : List Char) : Option Binary := do
  let (negative, cs) := splitSign text
  let whole := cs.takeWhile Char.isDigit
  let rest := cs.dropWhile Char.isDigit
  let (fraction, rest) :=
    match rest with
    | '.' :: rest => (rest.takeWhile Char.isDigit, rest.dropWhile Char.isDigit)
    | _ => ([], rest)
  if whole.isEmpty && fraction.isEmpty then none
  let exponent ← exponentOf? rest
  return .ofDecimal negative (digitsToNat (whole ++ fraction)) (exponent - fraction.length)

end ReviewPanel.Numeric
