import ReviewPanel.Numeric.Duration

/-!
# Deadlines

The deadline of an agent call is configured as a number of seconds. It has to
be a positive finite number that a duration can hold; it is then rounded to
the nearest nanosecond, so a very small number of seconds becomes no time at
all.
-/

namespace ReviewPanel

open Numeric

/-- Why a number of seconds is no deadline. -/
inductive DeadlineFault
  | notPositive (seconds : Binary)
  | tooLong (seconds : Binary)
  deriving Repr, DecidableEq

def DeadlineFault.message : DeadlineFault → String
  | .notPositive s =>
    "max_execution_time must be a positive number of seconds, got " ++ s.plainText .double
  | .tooLong s =>
    "max_execution_time of " ++ s.plainText .double ++
      "s: cannot convert float seconds to Duration: value is either too big or NaN"

/-- The deadline of a number of seconds. -/
def deadlineOfSeconds (seconds : Binary) : Except DeadlineFault Duration :=
  if !seconds.isFinite || !seconds.isPositive then .error (.notPositive seconds)
  else
    match Duration.ofBinary? seconds with
    | some t => .ok t
    | none => .error (.tooLong seconds)

end ReviewPanel
