import ReviewPanel.Numeric.Shortest

/-!
# Durations

A duration is a whole number of nanoseconds. A number of seconds becomes the
nearest duration, a tie going to the even nanosecond; a duration becomes the
floating-point number of its seconds by one rounded division and one rounded
sum. The clock that deadlines are measured on ticks in milliseconds, and a
deadline that falls between two ticks passes at the later one.
-/

namespace ReviewPanel.Numeric

/-- A length of time. -/
structure Duration where
  nanoseconds : Nat
  deriving Repr, DecidableEq

namespace Duration

def nanosPerSecond : Nat := 1000000000

def nanosPerTick : Nat := 1000000

def zero : Duration := ⟨0⟩

def ofSeconds (n : Nat) : Duration := ⟨n * nanosPerSecond⟩

def ofMillis (n : Nat) : Duration := ⟨n * nanosPerTick⟩

/-- The seconds that a duration can hold are below this bound. -/
def secondsBound : Nat := Nat.pow 2 64

/-- The duration nearest to a number of seconds; none when it is negative, too
long or not a number. -/
def ofBinary? : Binary → Option Duration
  | .finite s m e =>
    let (n, d) := Binary.quotient m e
    if s && m != 0 then none
    else if secondsBound * d ≤ n then none
    else some ⟨roundQuotient (n * nanosPerSecond) d⟩
  | _ => none

def wholeSeconds (t : Duration) : Nat := t.nanoseconds / nanosPerSecond

def subsecond (t : Duration) : Nat := t.nanoseconds % nanosPerSecond

/-- The seconds of a duration as a floating-point number. -/
def toBinary (t : Duration) : Binary :=
  Binary.addMagnitudes .double (Binary.ofNat .double t.wholeSeconds)
    (Binary.div .double (Binary.ofNat .double t.subsecond) (Binary.ofNat .double nanosPerSecond))

/-- The first tick of the clock at which a deadline has passed. -/
def ticks (t : Duration) : Nat :=
  t.nanoseconds / nanosPerTick + min 1 (t.nanoseconds % nanosPerTick)

end Duration

end ReviewPanel.Numeric
