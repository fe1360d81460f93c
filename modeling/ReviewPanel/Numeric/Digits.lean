/-!
# Digits

The naturals that digits write, in base ten and in any base up to sixteen, and
the characters whose codes they give.
-/

namespace ReviewPanel.Numeric

/-- The value of a digit of base ten. -/
def decimalValue (c : Char) : Nat := c.toNat - '0'.toNat

/-- The natural that digits of base ten write; zero where there are none. -/
def digitsToNat (ds : List Char) : Nat := ds.foldl (fun n c => n * 10 + decimalValue c) 0

/-- The value of a digit of base sixteen, a letter in either case. -/
def hexValue? (c : Char) : Option Nat :=
  if c.isDigit then some (decimalValue c)
  else if 'a' ≤ c ∧ c ≤ 'f' then some (c.toNat - 'a'.toNat + 10)
  else if 'A' ≤ c ∧ c ≤ 'F' then some (c.toNat - 'A'.toNat + 10)
  else none

/-- The value of a digit of a base up to sixteen. -/
def digitValue? (base : Nat) (c : Char) : Option Nat := (hexValue? c).filter (· < base)

/-- The natural that digits of a base write; zero where there are none. -/
def natOfDigits? (base : Nat) (ds : List Char) : Option Nat :=
  ds.foldlM (fun n c => (digitValue? base c).map (n * base + ·)) 0

/-- The number that exactly `count` hexadecimal digits at the start write, and
what follows them. -/
def readHex? (count : Nat) (cs : List Char) : Option (Nat × List Char) := do
  let digits := cs.take count
  let n ← natOfDigits? 16 digits
  if digits.length = count then some (n, cs.drop count) else none

/-- The character whose code is written by exactly `count` hexadecimal digits at
the start, and what follows them. -/
def readCode? (count : Nat) (cs : List Char) : Option (Char × List Char) := do
  let (code, rest) ← readHex? count cs
  if code.isValidChar then some (Char.ofNat code, rest) else none

end ReviewPanel.Numeric
