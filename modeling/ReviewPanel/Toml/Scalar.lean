import ReviewPanel.Datum.Basic
import ReviewPanel.Numeric.DecimalText
import ReviewPanel.Toml.Text

/-!
# Numbers and dates

The scalars of TOML that are not strings. Digits may be parted by single low
lines. An integer has 64 bits with a sign, and only a number in base ten is
written with one. Of a date only its validity matters here, since no type is
read from dates.
-/

namespace ReviewPanel.Toml

open Numeric

/-- A scalar and the text after it; none where it is malformed. -/
abbrev ScalarRead := Option (Datum × List Char)

/-- A part of a text that may be absent. -/
inductive Part (α : Type)
  | absent
  | malformed
  | found (value : α) (rest : List Char)

def Part.toOption {α : Type} : Part α → Option (α × List Char)
  | .found x rest => some (x, rest)
  | _ => none

/-! ### Digits -/

/-- Digits of a kind, parted by single low lines, at least one of them. -/
def readDigits (isDigit : Char → Bool) : List Char → Part (List Char)
  | [] => .absent
  | c :: rest =>
    if !isDigit c then .absent
    else
      match rest with
      | '_' :: rest =>
        match readDigits isDigit rest with
        | .found ds rest => .found (c :: ds) rest
        | _ => .malformed
      | rest =>
        match readDigits isDigit rest with
        | .found ds rest => .found (c :: ds) rest
        | .absent => .found [c] rest
        | .malformed => .malformed

/-- The digits of a number in base ten. A leading zero stands alone. -/
def readWhole (cs : List Char) : Part (List Char) :=
  match cs with
  | '0' :: rest => .found ['0'] rest
  | _ => readDigits Char.isDigit cs

def integerDatum (n : Int) : Option Datum :=
  if -Datum.signedBound ≤ n ∧ n < Datum.signedBound then some (.number (.integer n)) else none

/-- An integer after the mark of its base. -/
def readOfBase (base : Nat) (cs : List Char) : ScalarRead := do
  let (digits, rest) ← (readDigits (fun c => (digitValue? base c).isSome) cs).toOption
  return (← integerDatum (← natOfDigits? base digits), rest)

def readInteger (cs : List Char) : ScalarRead :=
  match cs with
  | '0' :: 'x' :: rest => readOfBase 16 rest
  | '0' :: 'o' :: rest => readOfBase 8 rest
  | '0' :: 'b' :: rest => readOfBase 2 rest
  | _ => do
    let (negative, rest) := splitSign cs
    let (digits, rest) ← (readWhole rest).toOption
    let n : Int := digitsToNat digits
    return (← integerDatum (if negative then -n else n), rest)

/-! ### Floats -/

/-- An exponent: its letter, its sign and its digits. -/
def readExponent (cs : List Char) : Part (List Char) :=
  match cs with
  | c :: rest =>
    if c == 'e' || c == 'E' then
      let (negative, rest) := splitSign rest
      match readDigits Char.isDigit rest with
      | .found ds rest => .found ('e' :: (if negative then '-' :: ds else ds)) rest
      | _ => .malformed
    else .absent
  | [] => .absent

/-- A fraction and the exponent that may follow it. -/
def readFraction (cs : List Char) : Part (List Char) :=
  match cs with
  | '.' :: rest =>
    match readDigits Char.isDigit rest with
    | .found ds rest =>
      match readExponent rest with
      | .found e rest => .found ('.' :: ds ++ e) rest
      | .absent => .found ('.' :: ds) rest
      | .malformed => .malformed
    | _ => .malformed
  | _ => .absent

/-- The numbers that have names. -/
def readNamedNumber (cs : List Char) : Part Datum :=
  let (negative, rest) := splitSign cs
  match rest with
  | 'i' :: 'n' :: 'f' :: rest => .found (.number (.double (.infinite negative))) rest
  | 'n' :: 'a' :: 'n' :: rest => .found (.number (.double .notANumber)) rest
  | _ => .absent

/-- The number that a float denotes. Only below zero may it be beyond every
finite one. -/
def floatDatum (negative : Bool) (digits : List Char) : Part (Datum) :=
  match Binary.ofNumeral? (if negative then '-' :: digits else digits) with
  | some x =>
    if x.isFinite || negative then .found (.number (.double x)) [] else .malformed
  | none => .malformed

def readFloat (cs : List Char) : Part Datum :=
  let (negative, unsigned) := splitSign cs
  match readWhole unsigned with
  | .malformed => .malformed
  | .absent => readNamedNumber cs
  | .found whole rest =>
    let tail :=
      match readExponent rest with
      | .absent => readFraction rest
      | e => e
    match tail with
    | .malformed => .malformed
    | .absent => .absent
    | .found part rest =>
      match floatDatum negative (whole ++ part) with
      | .found d _ => .found d rest
      | _ => .malformed

/-! ### Dates and times -/

/-- A number of so many digits, within bounds. -/
def readField (count least greatest : Nat) (cs : List Char) : Option (Nat × List Char) :=
  let digits := cs.take count
  let n := digitsToNat digits
  if digits.length = count ∧ digits.all Char.isDigit ∧ least ≤ n ∧ n ≤ greatest then
    some (n, cs.drop count)
  else none

/-- Passes over a character. -/
def expect (c : Char) : List Char → Option (List Char)
  | x :: rest => if x == c then some rest else none
  | [] => none

def isLeapYear (year : Nat) : Bool := year % 4 == 0 && (year % 100 != 0 || year % 400 == 0)

def daysOfMonth (year month : Nat) : Nat :=
  if month == 2 then if isLeapYear year then 29 else 28
  else if month ∈ [4, 6, 9, 11] then 30
  else 31

/-- Passes over a date. -/
def readDate (cs : List Char) : Part Unit :=
  match readField 4 0 9999 cs with
  | some (year, '-' :: rest) =>
    let day := do
      let (month, rest) ← readField 2 1 12 rest
      let rest ← expect '-' rest
      let (_, rest) ← readField 2 1 (daysOfMonth year month) rest
      return rest
    match day with
    | some rest => .found () rest
    | none => .malformed
  | _ => .absent

/-- Passes over the minutes after hours. -/
def readMinute (cs : List Char) : Option (List Char) :=
  (expect ':' cs).bind fun rest => (readField 2 0 59 rest).map Prod.snd

/-- Passes over a fraction of a second, if there is one. -/
def skipSecondFraction (cs : List Char) : List Char :=
  match cs with
  | '.' :: c :: rest => if c.isDigit then rest.dropWhile Char.isDigit else cs
  | _ => cs

/-- Passes over a time of day. A second may be a leap second. -/
def readTime (cs : List Char) : Part Unit :=
  match readField 2 0 23 cs with
  | some (_, ':' :: rest) =>
    let second := do
      let (_, rest) ← readField 2 0 59 rest
      let rest ← expect ':' rest
      let (_, rest) ← readField 2 0 60 rest
      return rest
    match second with
    | some rest => .found () (skipSecondFraction rest)
    | none => .malformed
  | _ => .absent

/-- Passes over the distance from universal time. -/
def readOffset (cs : List Char) : Part Unit :=
  match cs with
  | 'Z' :: rest | 'z' :: rest => .found () rest
  | c :: rest =>
    if c == '+' || c == '-' then
      match (readField 2 0 23 rest).bind fun (_, rest) => readMinute rest with
      | some rest => .found () rest
      | none => .malformed
    else .absent
  | [] => .absent

/-- A date, a time, or both and a distance from universal time. -/
def readDateTime (cs : List Char) : Part Unit :=
  match readDate cs with
  | .absent => readTime cs
  | .malformed => .malformed
  | .found _ rest =>
    match rest with
    | c :: afterMark =>
      if c == 'T' || c == 't' || c == ' ' then
        match readTime afterMark with
        | .found _ rest =>
          match readOffset rest with
          | .found _ rest => .found () rest
          | .absent => .found () rest
          | .malformed => .malformed
        | .absent => .found () rest
        | .malformed => .malformed
      else .found () rest
    | [] => .found () rest

/-- What a date is read as: a record with a member that no type knows. -/
def dateDatum (text : List Char) : Datum :=
  .record [(some "date", .text (String.ofList text))]

/-- A date or a number, whichever the text is first. -/
def readNumberOrDate (cs : List Char) : ScalarRead :=
  match readDateTime cs with
  | .malformed => none
  | .found _ rest => some (dateDatum (cs.take (cs.length - rest.length)), rest)
  | .absent =>
    match readFloat cs with
    | .malformed => none
    | .found d rest => some (d, rest)
    | .absent => readInteger cs

end ReviewPanel.Toml
