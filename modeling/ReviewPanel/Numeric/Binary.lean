/-!
# Binary floating-point numbers

A `Format` is a precision and a range of exponents; a `Binary` number is a
sign, a mantissa and an exponent, or one of the two infinities, or not a
number. Every operation works on the exact quotient of two naturals and
rounds once, to the nearest number of the format, a tie going to the even
mantissa, so no operation depends on the machine.

The canonical form of a finite number has a mantissa of full precision, or
the lowest exponent of its format: equal numbers of one sign are then equal
as data, and the two zeros differ.
-/

namespace ReviewPanel.Numeric

/-- A floating-point format: numbers `m * 2 ^ e` with `m < 2 ^ precision` and
`lowest ≤ e ≤ highest`. -/
structure Format where
  precision : Nat
  lowest : Int
  highest : Int
  deriving Repr, DecidableEq

/-- The format of 64 bits. -/
def Format.double : Format := ⟨53, -1074, 971⟩

/-- The format of 32 bits. -/
def Format.single : Format := ⟨24, -149, 104⟩

/-- A floating-point number of some format. -/
inductive Binary
  | finite (negative : Bool) (mantissa : Nat) (exponent : Int)
  | infinite (negative : Bool)
  | notANumber
  deriving Repr, DecidableEq

/-- The quotient `num / den` to the nearest natural, a tie going to the even one. -/
def roundQuotient (num den : Nat) : Nat :=
  let q := num / den
  let r := num % den
  if 2 * r < den then q
  else if den < 2 * r then q + 1
  else if q % 2 = 0 then q else q + 1

/-- The pair of naturals whose quotient is `num / den / 2 ^ e`. -/
def scaleDown (num den : Nat) (e : Int) : Nat × Nat :=
  if 0 ≤ e then (num, den * Nat.pow 2 e.toNat) else (num * Nat.pow 2 (-e).toNat, den)

namespace Binary

/-- Zero with a sign. -/
def zero (f : Format) (negative : Bool) : Binary := .finite negative 0 f.lowest

/-- The exponent that a positive quotient gets in a format of unbounded range. -/
def naturalExponent (f : Format) (num den : Nat) : Int :=
  let l : Int := Int.ofNat num.log2 - Int.ofNat den.log2
  let (n, d) := scaleDown num den l
  if n < d then l - f.precision else l - f.precision + 1

/-- The number of the format nearest to `num / den`, with the given sign. -/
def ofQuotient (f : Format) (negative : Bool) (num den : Nat) : Binary :=
  if num = 0 then zero f negative
  else
    let e := max f.lowest (naturalExponent f num den)
    let (n, d) := scaleDown num den e
    let m := roundQuotient n d
    let (m, e) := if m < Nat.pow 2 f.precision then (m, e) else (m / 2, e + 1)
    if f.highest < e then .infinite negative else .finite negative m e

/-- The magnitude of a finite number as a quotient of naturals. -/
def quotient (mantissa : Nat) (exponent : Int) : Nat × Nat :=
  if 0 ≤ exponent then (mantissa * Nat.pow 2 exponent.toNat, 1)
  else (mantissa, Nat.pow 2 (-exponent).toNat)

def ofNat (f : Format) (n : Nat) : Binary := ofQuotient f false n 1

def ofInt (f : Format) (n : Int) : Binary := ofQuotient f (n < 0) n.natAbs 1

/-- The nearest number of another format. -/
def convert (f : Format) : Binary → Binary
  | .finite s m e => let (n, d) := quotient m e; ofQuotient f s n d
  | x => x

def negate : Binary → Binary
  | .finite s m e => .finite (!s) m e
  | .infinite s => .infinite (!s)
  | .notANumber => .notANumber

/-- The rounded product of two finite numbers; any other product is no number. -/
def mul (f : Format) : Binary → Binary → Binary
  | .finite s m e, .finite s' m' e' =>
    let (n, d) := quotient m e
    let (n', d') := quotient m' e'
    ofQuotient f (s != s') (n * n') (d * d')
  | _, _ => .notANumber

/-- The rounded quotient of two finite numbers, the second of them not zero;
any other quotient is no number. -/
def div (f : Format) : Binary → Binary → Binary
  | .finite s m e, .finite s' m' e' =>
    if m' = 0 then .notANumber
    else
      let (n, d) := quotient m e
      let (n', d') := quotient m' e'
      ofQuotient f (s != s') (n * d') (d * n')
  | _, _ => .notANumber

/-- The rounded sum of two numbers that are not negative. -/
def addMagnitudes (f : Format) : Binary → Binary → Binary
  | .finite _ m e, .finite _ m' e' =>
    let (n, d) := quotient m e
    let (n', d') := quotient m' e'
    ofQuotient f false (n * d' + n' * d) (d * d')
  | .notANumber, _ | _, .notANumber => .notANumber
  | _, _ => .infinite false

def isFinite : Binary → Bool
  | .finite .. => true
  | _ => false

def isZero : Binary → Bool
  | .finite _ 0 _ => true
  | _ => false

/-- Above zero. -/
def isPositive : Binary → Bool
  | .finite s m _ => !s && m != 0
  | .infinite s => !s
  | .notANumber => false

/-- Below zero. -/
def isNegative : Binary → Bool
  | .finite s m _ => s && m != 0
  | .infinite s => s
  | .notANumber => false

/-- Above one. -/
def exceedsOne : Binary → Bool
  | .finite s m e => let (n, d) := quotient m e; !s && d < n
  | .infinite s => !s
  | .notANumber => false

/-- The nearest number between zero and one; what is not a number stays. -/
def clampToUnit (f : Format) (x : Binary) : Binary :=
  if x.isNegative then zero f false
  else if x.exceedsOne then ofNat f 1
  else x

end Binary

end ReviewPanel.Numeric
