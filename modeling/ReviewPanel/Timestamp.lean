import ReviewPanel.Datum.Plain

/-!
# Timestamps

A point in time, written as a date and a time of day with their distance from
universal time, and kept in universal time. A fraction of a second is written
in groups of three digits, as many as it needs. The second of a leap minute
may be the sixtieth.
-/

namespace ReviewPanel

/-- A point in universal time. -/
structure Timestamp where
  /-- Days since the first of March of the year zero. -/
  day : Int
  /-- The second of the day. -/
  second : Nat
  /-- Nanoseconds within the second; more than a second's worth in a leap second. -/
  nanosecond : Nat
  deriving Repr, DecidableEq

namespace Timestamp

/-- The days before a month, in years that begin with March. -/
def daysBeforeMonth (m : Nat) : Nat := (153 * m + 2) / 5

/-- The day of a date. -/
def dayOfDate (year : Int) (month date : Nat) : Int :=
  let y := if month ≤ 2 then year - 1 else year
  let m := if month ≤ 2 then month + 9 else month - 3
  365 * y + y.fdiv 4 - y.fdiv 100 + y.fdiv 400 + daysBeforeMonth m + (date - 1 : Int)

/-- The year, month and date of a day. -/
def dateOfDay (day : Int) : Int × Nat × Nat :=
  let era := day.fdiv 146097
  let dayOfEra := (day - era * 146097).toNat
  let yearOfEra :=
    (dayOfEra - dayOfEra / 1460 + dayOfEra / 36524 - dayOfEra / 146096) / 365
  let dayOfYear := dayOfEra - (365 * yearOfEra + yearOfEra / 4 - yearOfEra / 100)
  let m := (5 * dayOfYear + 2) / 153
  let date := dayOfYear - daysBeforeMonth m + 1
  let month := if m < 10 then m + 3 else m - 9
  (era * 400 + yearOfEra + (if month ≤ 2 then 1 else 0), month, date)

def isLeapYear (year : Int) : Bool :=
  year % 4 == 0 && (year % 100 != 0 || year % 400 == 0)

def daysInMonth (year : Int) (month : Nat) : Nat :=
  if month = 2 then if isLeapYear year then 29 else 28
  else if month ∈ [4, 6, 9, 11] then 30
  else 31

/-- Digits at the start of a text, exactly as many as asked for. -/
def digits? (count : Nat) (cs : List Char) : Option (Nat × List Char) :=
  let ds := cs.take count
  if ds.length = count ∧ ds.all Char.isDigit then
    some (Numeric.digitsToNat ds, cs.drop count)
  else none

def expect? (c : Char) : List Char → Option (List Char)
  | x :: rest => if x = c then some rest else none
  | [] => none

/-- The nanoseconds of a fraction; digits beyond the ninth are dropped. -/
def fraction? : List Char → Option (Nat × List Char)
  | '.' :: rest =>
    let ds := rest.takeWhile Char.isDigit
    if ds.isEmpty then none
    else
      let nine := (ds ++ List.replicate 9 '0').take 9
      some (Numeric.digitsToNat nine, rest.dropWhile Char.isDigit)
  | cs => some (0, cs)

/-- The distance from universal time, in seconds. -/
def offset? (cs : List Char) : Option Int :=
  if cs = ['Z'] ∨ cs = ['z'] ∨ cs.map Char.toLower = "utc".toList then some 0
  else do
    let (negative, cs) ←
      match cs with
      | '+' :: rest => some (false, rest)
      | '-' :: rest | '−' :: rest => some (true, rest)
      | _ => none
    let (hours, cs) ← digits? 2 cs
    let cs := (expect? ':' cs).getD cs
    let (minutes, cs) ← digits? 2 cs
    if !cs.isEmpty || 60 ≤ minutes || 24 ≤ hours then none
    let size : Int := hours * 3600 + minutes * 60
    return if negative then -size else size

/-- The timestamp that a text denotes. -/
def parse? (text : String) : Option Timestamp := do
  let (year, cs) ← digits? 4 text.toList
  let cs ← expect? '-' cs
  let (month, cs) ← digits? 2 cs
  let cs ← expect? '-' cs
  let (date, cs) ← digits? 2 cs
  let cs ←
    match cs with
    | c :: rest => if c = 'T' ∨ c = 't' ∨ c = ' ' then some rest else none
    | [] => none
  let (hour, cs) ← digits? 2 cs
  let cs ← expect? ':' cs
  let (minute, cs) ← digits? 2 cs
  let cs ← expect? ':' cs
  let (second, cs) ← digits? 2 cs
  let (nanos, cs) ← fraction? cs
  let offset ← offset? (cs.dropWhile (· == ' '))
  if month = 0 ∨ 12 < month ∨ date = 0 ∨ daysInMonth year month < date then none
  if 24 ≤ hour ∨ 60 ≤ minute ∨ 60 < second then none
  let (second, nanos) := if second = 60 then (59, nanos + 1000000000) else (second, nanos)
  let total : Int := dayOfDate year month date * 86400
    + (hour * 3600 + minute * 60 + second : Nat) - offset
  return ⟨total.fdiv 86400, (total.fmod 86400).toNat, nanos⟩

def padded (width n : Nat) : String :=
  let ds := Nat.toDigits 10 n
  String.ofList (List.replicate (width - ds.length) '0' ++ ds)

/-- The text of a fraction of a second, nothing when there is none. -/
def writeFraction (nanos : Nat) : String :=
  if nanos = 0 then ""
  else if nanos % 1000000 = 0 then "." ++ padded 3 (nanos / 1000000)
  else if nanos % 1000 = 0 then "." ++ padded 6 (nanos / 1000)
  else "." ++ padded 9 nanos

def writeYear (year : Int) : String :=
  if 0 ≤ year ∧ year ≤ 9999 then padded 4 year.toNat
  else (if year < 0 then "-" else "+") ++ padded 4 year.natAbs

/-- The text of a timestamp. -/
def write (t : Timestamp) : String :=
  let (year, month, date) := dateOfDay t.day
  let leap := t.nanosecond / 1000000000
  writeYear year ++ "-" ++ padded 2 month ++ "-" ++ padded 2 date ++ "T"
    ++ padded 2 (t.second / 3600) ++ ":" ++ padded 2 (t.second / 60 % 60) ++ ":"
    ++ padded 2 (t.second % 60 + leap) ++ writeFraction (t.nanosecond % 1000000000) ++ "Z"

end Timestamp

end ReviewPanel
