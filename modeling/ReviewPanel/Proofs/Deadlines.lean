import ReviewPanel.Deadline
import ReviewPanel.Proofs.Rounding

/-!
# Deadlines — seconds to nanoseconds and back

A number of seconds is rounded to nanoseconds once, and a deadline that is written is a
number of seconds again. A deadline of whole seconds is written as an integer, and
any other as a quotient and a sum that are both rounded. Below `2 ^ 23` seconds the two
errors together are less than half a nanosecond; from there on numbers lie so far
apart that the sum is rounded to the very number that the deadline was made of.

* `abs_nanoseconds_sub_le`         — rounding to nanoseconds misses by one half at most.
* `deadlineOfSeconds_eq_ok_iff`    — the numbers of seconds that are deadlines.
* `eq_zero_iff_of_deadlineOfSeconds` — those that are no time at all.
* `deadlineOfSeconds_ofNat`        — whole seconds are read back.
* `deadlineOfSeconds_toBinary`     — parts of seconds are read back.
-/

namespace ReviewPanel

open Numeric

namespace Numeric.Duration

open Binary

variable {m : ℕ} {e : ℤ} {t : Duration}

theorem cast_nanosPerSecond : (nanosPerSecond : ℚ) = 10 ^ 9 := by norm_num [nanosPerSecond]

/-! ## Rounding to nanoseconds -/

/-- What is rounded to nanoseconds, as a quotient. -/
theorem ratio_nanoseconds (m : ℕ) (e : ℤ) :
    (((quotient m e).1 * nanosPerSecond : ℕ) : ℚ) / (quotient m e).2 = m * 2 ^ e * 10 ^ 9 := by
  rw [Nat.cast_mul, cast_nanosPerSecond, mul_div_right_comm, ratio_quotient]

/-- A number of seconds becomes a duration iff a duration can hold it. -/
theorem ofBinary?_eq_some_iff :
    ofBinary? (.finite false m e) = some t ↔
      (m : ℚ) * 2 ^ e < 2 ^ 64 ∧
        t = ⟨roundQuotient ((quotient m e).1 * nanosPerSecond) (quotient m e).2⟩ := by
  have hDen : (0 : ℚ) < (quotient m e).2 := by exact_mod_cast quotient_den_pos
  have hBound : secondsBound * (quotient m e).2 ≤ (quotient m e).1 ↔ (2 : ℚ) ^ 64 ≤ m * 2 ^ e := by
    rw [← ratio_quotient, le_div_iff₀ hDen]
    constructor
    · intro h
      exact_mod_cast h
    · intro h
      exact_mod_cast h
  simp only [ofBinary?, Bool.false_and, Bool.false_eq_true, if_false]
  by_cases hLong : secondsBound * (quotient m e).2 ≤ (quotient m e).1
  · rw [if_pos hLong]
    simp [not_lt.mpr (hBound.mp hLong)]
  · rw [if_neg hLong]
    have hFits : (m : ℚ) * 2 ^ e < 2 ^ 64 := not_le.mp fun h => hLong (hBound.mpr h)
    simp only [Option.some.injEq, hFits, true_and, eq_comm]

/-- Rounding to nanoseconds misses by one half at most. -/
theorem abs_nanoseconds_sub_le (hRead : ofBinary? (.finite false m e) = some t) :
    |(t.nanoseconds : ℚ) - m * 2 ^ e * 10 ^ 9| ≤ 1 / 2 := by
  obtain ⟨-, rfl⟩ := ofBinary?_eq_some_iff.mp hRead
  rw [← ratio_nanoseconds]
  exact abs_roundQuotient_sub_le _ quotient_den_pos

/-- The duration that a number of seconds is nearest to. -/
theorem ofBinary?_of_near (hLt : (m : ℚ) * 2 ^ e < 2 ^ 64)
    (hNear : |(t.nanoseconds : ℚ) - m * 2 ^ e * 10 ^ 9| < 1 / 2) :
    ofBinary? (.finite false m e) = some t := by
  rw [← ratio_nanoseconds] at hNear
  rw [ofBinary?_eq_some_iff, roundQuotient_eq quotient_den_pos hNear]
  exact ⟨hLt, rfl⟩

/-- Half a nanosecond at most becomes no time at all, and nothing else does. -/
theorem eq_zero_iff_of_ofBinary? (hRead : ofBinary? (.finite false m e) = some t) :
    t = .zero ↔ (m : ℚ) * 2 ^ e * 10 ^ 9 ≤ 1 / 2 := by
  have hDen : (0 : ℚ) < (quotient m e).2 := by exact_mod_cast quotient_den_pos
  obtain ⟨-, rfl⟩ := ofBinary?_eq_some_iff.mp hRead
  rw [zero, Duration.mk.injEq, roundQuotient_eq_zero_iff quotient_den_pos, ← ratio_nanoseconds,
    div_le_iff₀ hDen, ← Nat.cast_le (α := ℚ)]
  push_cast
  constructor <;> intro h <;> linarith

theorem nanoseconds_eq (t : Duration) :
    t.nanoseconds = t.wholeSeconds * nanosPerSecond + t.subsecond :=
  (Nat.div_add_mod' t.nanoseconds nanosPerSecond).symm

theorem cast_nanoseconds (t : Duration) :
    (t.nanoseconds : ℚ) = t.wholeSeconds * 10 ^ 9 + t.subsecond := by
  rw [← cast_nanosPerSecond]
  exact_mod_cast nanoseconds_eq t

theorem subsecond_lt (t : Duration) : t.subsecond < nanosPerSecond := Nat.mod_lt _ (by decide)

end Numeric.Duration

/-! ## Numbers of seconds that are deadlines -/

variable {x : Binary} {t : Duration}

/-- A deadline is given by a positive number that a duration can hold. -/
theorem deadlineOfSeconds_eq_ok_iff :
    deadlineOfSeconds x = .ok t ↔
      ∃ m e, x = .finite false m e ∧ 0 < m ∧ Duration.ofBinary? (.finite false m e) = some t := by
  rw [deadlineOfSeconds]
  cases x with
  | infinite s => simp [Binary.isFinite]
  | notANumber => simp [Binary.isFinite]
  | finite s m e =>
    -- only numbers above zero come as far as being rounded
    by_cases hPositive : s = false ∧ 0 < m
    · obtain ⟨rfl, hMantissa⟩ := hPositive
      have hRefuses : (!(Binary.finite false m e).isFinite ||
          !(Binary.finite false m e).isPositive) = false := by
        simp [Binary.isFinite, Binary.isPositive, hMantissa.ne']
      rw [hRefuses]
      simp only [Bool.false_eq_true, if_false]
      cases hRead : Duration.ofBinary? (.finite false m e) with
      | none =>
        simp only [reduceCtorEq, false_iff]
        rintro ⟨m', e', hEq, -, hRead'⟩
        rw [← hEq, hRead] at hRead'
        cases hRead'
      | some t' =>
        constructor
        · intro h
          obtain rfl := Except.ok.inj h
          exact ⟨m, e, rfl, hMantissa, hRead⟩
        · rintro ⟨m', e', hEq, -, hRead'⟩
          rw [← hEq, hRead] at hRead'
          rw [Option.some.inj hRead']
    · -- zero and negative numbers are refused
      have hRefuses : (!(Binary.finite s m e).isFinite ||
          !(Binary.finite s m e).isPositive) = true := by
        simp only [Binary.isFinite, Binary.isPositive]
        cases s
        · simp only [true_and, not_lt, Nat.le_zero] at hPositive
          simp [hPositive]
        · rfl
      rw [hRefuses]
      simp only [if_true, reduceCtorEq, false_iff]
      rintro ⟨m', e', hEq, hMantissa, -⟩
      obtain ⟨rfl, rfl, rfl⟩ := Binary.finite.inj hEq
      exact hPositive ⟨rfl, hMantissa⟩

/-- The deadline that a number of seconds is nearest to. -/
theorem deadlineOfSeconds_of_near {m : ℕ} {e : ℤ} (hMantissa : 0 < m)
    (hLt : (m : ℚ) * 2 ^ e < 2 ^ 64)
    (hNear : |(t.nanoseconds : ℚ) - m * 2 ^ e * 10 ^ 9| < 1 / 2) :
    deadlineOfSeconds (.finite false m e) = .ok t :=
  deadlineOfSeconds_eq_ok_iff.mpr ⟨m, e, rfl, hMantissa, Duration.ofBinary?_of_near hLt hNear⟩

/-- A deadline is no time at all iff its number of seconds is half a nanosecond at most. -/
theorem eq_zero_iff_of_deadlineOfSeconds (hDeadline : deadlineOfSeconds x = .ok t) :
    t = .zero ↔ x.magnitude * 10 ^ 9 ≤ 1 / 2 := by
  obtain ⟨m, e, rfl, -, hRead⟩ := deadlineOfSeconds_eq_ok_iff.mp hDeadline
  exact Duration.eq_zero_iff_of_ofBinary? hRead

/-! ## Whole seconds -/

namespace Numeric.Duration

@[simp] theorem subsecond_ofSeconds (n : ℕ) : (ofSeconds n).subsecond = 0 := Nat.mul_mod_left ..

@[simp] theorem wholeSeconds_ofSeconds (n : ℕ) : (ofSeconds n).wholeSeconds = n :=
  Nat.mul_div_cancel _ (by decide)

theorem eq_ofSeconds_of_subsecond (hWhole : t.subsecond = 0) : t = .ofSeconds t.wholeSeconds := by
  have hSplit := nanoseconds_eq t
  rw [hWhole, Nat.add_zero] at hSplit
  exact congrArg Duration.mk hSplit

/-- A whole number of seconds is not rounded. -/
theorem eq_ofSeconds {m k : ℕ} {e : ℤ} (hRead : ofBinary? (.finite false m e) = some t)
    (hValue : (m : ℚ) * 2 ^ e = k) : t = .ofSeconds k := by
  have hError := abs_nanoseconds_sub_le hRead
  rw [hValue, ← cast_nanosPerSecond, abs_le] at hError
  have hLow : ((k * nanosPerSecond : ℕ) : ℚ) < t.nanoseconds + 1 := by
    push_cast
    linarith
  have hHigh : (t.nanoseconds : ℚ) < ((k * nanosPerSecond : ℕ) : ℚ) + 1 := by
    push_cast
    linarith
  have hLow' : k * nanosPerSecond < t.nanoseconds + 1 := by exact_mod_cast hLow
  have hHigh' : t.nanoseconds < k * nanosPerSecond + 1 := by exact_mod_cast hHigh
  have hEq : t.nanoseconds = k * nanosPerSecond := by omega
  exact congrArg Duration.mk hEq

end Numeric.Duration

open Numeric.Duration Numeric.Binary

/-- A whole number of seconds that some mantissa and exponent make up is read back. -/
theorem deadlineOfSeconds_ofNat {k m : ℕ} {e : ℤ} (hPos : 0 < k) (hBound : (k : ℚ) < 2 ^ 64)
    (hMantissa : m < 2 ^ 53) (hLowest : -1074 ≤ e) (hHighest : e < 971)
    (hValue : (k : ℚ) = m * 2 ^ e) :
    deadlineOfSeconds (.ofNat .double k) = .ok (.ofSeconds k) := by
  have hRatio : (k : ℚ) / (1 : ℕ) = m * 2 ^ e := by rw [Nat.cast_one, div_one, hValue]
  obtain ⟨m', e', hNumber, hExact⟩ :=
    exists_ofQuotient_of_value (f := .double) (s := false) (by decide) one_pos hMantissa
      hLowest hHighest hRatio
  rw [Nat.cast_one, div_one] at hExact
  rw [Binary.ofNat, hNumber]
  have hMantissa' : 0 < m' := by
    rcases Nat.eq_zero_or_pos m' with rfl | hSome
    · rw [Nat.cast_zero, zero_mul] at hExact
      have hZero : (0 : ℕ) = k := by exact_mod_cast hExact
      omega
    · exact hSome
  -- the number is exact, so nothing is rounded
  apply deadlineOfSeconds_of_near hMantissa'
  · rw [hExact]
    exact hBound
  · rw [hExact, ofSeconds, ← cast_nanosPerSecond]
    push_cast
    rw [sub_self, abs_zero]
    norm_num

/-- Naturals of the precision of the format are numbers of the format. -/
theorem exists_ofNat_eq {n : ℕ} (hSmall : n < 2 ^ 53) :
    ∃ m e, Binary.ofNat .double n = .finite false m e ∧ (m : ℚ) * 2 ^ e = n := by
  have hRatio : (n : ℚ) / (1 : ℕ) = n * 2 ^ (0 : ℤ) := by simp
  obtain ⟨m, e, hNumber, hExact⟩ :=
    exists_ofQuotient_of_value (f := .double) (s := false) (by decide) one_pos hSmall
      (by decide) (by decide) hRatio
  rw [Nat.cast_one, div_one] at hExact
  exact ⟨m, e, hNumber, hExact⟩

/-! ## Parts of seconds -/

/-- The number that a duration is written as is a rounded quotient, which has the seconds
of the duration up to the error of the rounded division. -/
theorem exists_toBinary_eq (hSmall : t.wholeSeconds < 2 ^ 52) :
    ∃ num den, 0 < den ∧ t.toBinary = .ofQuotient .double false num den ∧
      |(num : ℚ) / den - t.nanoseconds / 10 ^ 9| ≤ 2 ^ (-54 : ℤ) ∧
      (num : ℚ) / den < t.wholeSeconds + 1 := by
  have hPart : t.subsecond < nanosPerSecond := subsecond_lt t
  have hBillion : nanosPerSecond < 2 ^ 53 := by decide
  obtain ⟨a, ea, hWhole, hWholeValue⟩ := exists_ofNat_eq (n := t.wholeSeconds) (by omega)
  obtain ⟨b, eb, hNanos, hNanosValue⟩ := exists_ofNat_eq (n := t.subsecond) (by omega)
  obtain ⟨c, ec, hUnit, hUnitValue⟩ := exists_ofNat_eq hBillion
  have hDivisor : 0 < c := by
    rcases Nat.eq_zero_or_pos c with rfl | hSome
    · rw [cast_nanosPerSecond] at hUnitValue
      norm_num at hUnitValue
    · exact hSome
  -- the part of a second is below one, so dividing misses it by little
  obtain ⟨n, d, hDen, hDiv, hDivValue⟩ := div_eq .double false false b eb ec hDivisor
  rw [hNanosValue, hUnitValue, cast_nanosPerSecond] at hDivValue
  have hPartCast : (t.subsecond : ℚ) + 1 ≤ 10 ^ 9 := by
    rw [← cast_nanosPerSecond]
    exact_mod_cast hPart
  have hBelow : (n : ℚ) / d < 2 ^ (((53 : ℕ) : ℤ) + -53) := by
    rw [hDivValue]
    norm_num
    linarith
  obtain ⟨b', eb', hQuotient, hQuotientError⟩ :=
    exists_ofQuotient_of_lt (f := .double) (s := false) (by decide) hDen (by decide)
      (by decide) hBelow
  rw [hDivValue] at hQuotientError
  obtain ⟨num, den, hDen', hSum, hSumValue⟩ :=
    addMagnitudes_eq .double false false a b' ea eb'
  refine ⟨num, den, hDen', ?_, ?_, ?_⟩
  · rw [toBinary, hWhole, hNanos, hUnit, hDiv]
    exact (congrArg (addMagnitudes .double (.finite false a ea)) hQuotient).trans hSum
  · rw [hSumValue, hWholeValue, cast_nanoseconds t, add_div, mul_div_cancel_right₀ _ (by norm_num),
      add_sub_add_left_eq_sub]
    exact hQuotientError
  · rw [hSumValue, hWholeValue]
    have hPartSmall : (t.subsecond : ℚ) / 10 ^ 9 ≤ 1 - 1 / 10 ^ 9 := by linarith
    have hError := (abs_le.mp hQuotientError).2
    norm_num at hError hPartSmall
    linarith

/-- Numbers of fewer seconds lie so close together that the nearest nanosecond is found
again. -/
theorem deadlineOfSeconds_toBinary_of_lt (hPart : t.subsecond ≠ 0)
    (hShort : t.wholeSeconds < 2 ^ 23) : deadlineOfSeconds t.toBinary = .ok t := by
  obtain ⟨num, den, hDen, hNumber, hError, hBelow⟩ := exists_toBinary_eq (t := t) (by omega)
  have hShortCast : (t.wholeSeconds : ℚ) + 1 ≤ 2 ^ 23 := by exact_mod_cast hShort
  have hLt : (num : ℚ) / den < 2 ^ (((53 : ℕ) : ℤ) + -30) := by
    norm_num at hShortCast ⊢
    linarith
  obtain ⟨m, e, hFinite, hRound⟩ :=
    exists_ofQuotient_of_lt (f := .double) (s := false) (by decide) hDen (by decide)
      (by decide) hLt
  rw [hNumber, hFinite]
  have hNanos : (1 : ℚ) ≤ t.nanoseconds := by
    have hSplit := nanoseconds_eq t
    exact_mod_cast (by omega : 1 ≤ t.nanoseconds)
  -- both errors together are less than half a nanosecond
  have hNear : |(t.nanoseconds : ℚ) - m * 2 ^ e * 10 ^ 9| < 1 / 2 := by
    rw [abs_le] at hRound hError
    norm_num at hRound hError
    rw [abs_lt]
    constructor <;> linarith
  have hValue : (0 : ℚ) < m * 2 ^ e := by
    rw [abs_lt] at hNear
    linarith
  have hMantissa : 0 < m := by
    rcases Nat.eq_zero_or_pos m with rfl | hSome
    · simp at hValue
    · exact hSome
  apply deadlineOfSeconds_of_near hMantissa _ hNear
  rw [abs_le] at hRound
  norm_num at hRound hLt
  linarith

/-- Where a duration has a part of a second, what it was read from is less than half the
precision of the format allows, and more than its whole seconds. -/
theorem bounds_of_subsecond {m : ℕ} {e : ℤ} (hMantissa : m < 2 ^ 53)
    (hRead : ofBinary? (.finite false m e) = some t) (hPart : t.subsecond ≠ 0) :
    e < 0 ∧ (t.wholeSeconds : ℚ) < m * 2 ^ e ∧ t.wholeSeconds < 2 ^ 52 := by
  have hNegative : e < 0 := by
    by_contra hNot
    obtain ⟨n, rfl⟩ := Int.eq_ofNat_of_zero_le (not_lt.mp hNot)
    have hValue : (m : ℚ) * 2 ^ (n : ℤ) = (m * 2 ^ n : ℕ) := by
      push_cast
      rw [zpow_natCast]
    rw [eq_ofSeconds hRead hValue] at hPart
    exact hPart (subsecond_ofSeconds _)
  -- part of a second is a nanosecond at least, and rounding adds a half at most
  have hMore : (t.wholeSeconds : ℚ) < m * 2 ^ e := by
    have hRounded := abs_le.mp (abs_nanoseconds_sub_le hRead)
    have hSeconds : (t.wholeSeconds : ℚ) * 10 ^ 9 + 1 ≤ t.nanoseconds := by
      have hSplit := nanoseconds_eq t
      rw [← cast_nanosPerSecond]
      exact_mod_cast (by omega : t.wholeSeconds * nanosPerSecond + 1 ≤ t.nanoseconds)
    linarith
  refine ⟨hNegative, hMore, ?_⟩
  have hHalf : (2 : ℚ) ^ e ≤ 2 ^ (-1 : ℤ) := two_zpow_le_iff.mpr (by omega)
  have hMantissaCast : (m : ℚ) < 2 ^ 53 := by exact_mod_cast hMantissa
  have hCast : (t.wholeSeconds : ℚ) < ((2 ^ 52 : ℕ) : ℚ) := by
    calc (t.wholeSeconds : ℚ) < m * 2 ^ e := hMore
      _ ≤ m * 2 ^ (-1 : ℤ) := mul_le_mul_of_nonneg_left hHalf (Nat.cast_nonneg m)
      _ ≤ ((2 ^ 52 : ℕ) : ℚ) := by
        rw [zpow_neg_one]
        push_cast
        linarith
  exact_mod_cast hCast

/-- From `2 ^ 23` seconds on, a number that has a part of a second is a multiple of `2 ^ (-29)`
and no power of two. -/
theorem long_of_subsecond {m : ℕ} {e : ℤ} (hOf : (Binary.finite false m e).IsOf .double)
    (hRead : ofBinary? (.finite false m e) = some t) (hPart : t.subsecond ≠ 0)
    (hLong : 2 ^ 23 ≤ t.wholeSeconds) : -30 < e ∧ 2 ^ 52 < m := by
  obtain ⟨hMantissa, -, -, hCanonical⟩ := hOf
  obtain ⟨-, hMore, -⟩ := bounds_of_subsecond hMantissa hRead hPart
  have hMantissaCast : (m : ℚ) < 2 ^ (53 : ℤ) := by exact_mod_cast hMantissa
  -- a mantissa of 53 bits reaches 2 ^ 23 only with this exponent
  have hExp : -30 < e := by
    have hReach : (2 : ℚ) ^ (23 : ℤ) < 2 ^ (53 + e) := by
      calc (2 : ℚ) ^ (23 : ℤ) ≤ t.wholeSeconds := by exact_mod_cast hLong
        _ < m * 2 ^ e := hMore
        _ ≤ 2 ^ (53 + e) := by
          rw [two_zpow_add]
          exact mul_le_mul_of_nonneg_right hMantissaCast.le (two_zpow_pos e).le
    rw [two_zpow_lt_iff] at hReach
    omega
  -- the number is canonical: its mantissa is full, or its exponent the lowest
  refine ⟨hExp, ?_⟩
  rcases hCanonical with hFull | hLow
  · rcases Nat.lt_or_eq_of_le hFull with hLt | hEq
    · exact hLt
    · -- a power of two of this size would be a whole number of seconds
      obtain ⟨n, hn⟩ := Int.eq_ofNat_of_zero_le (by omega : 0 ≤ 52 + e)
      have hValue : (m : ℚ) * 2 ^ e = (2 ^ n : ℕ) := by
        have hPower : (m : ℚ) = 2 ^ (52 : ℤ) := by exact_mod_cast hEq.symm
        rw [hPower, ← two_zpow_add, hn]
        push_cast
        rw [zpow_natCast]
      rw [eq_ofSeconds hRead hValue] at hPart
      exact absurd (subsecond_ofSeconds _) hPart
  · simp only [Format.double] at hLow
    omega

/-- Numbers of more seconds lie so far apart that what is written is the very number that
was read. -/
theorem toBinary_eq_of_le {m : ℕ} {e : ℤ} (hOf : (Binary.finite false m e).IsOf .double)
    (hRead : ofBinary? (.finite false m e) = some t) (hPart : t.subsecond ≠ 0)
    (hLong : 2 ^ 23 ≤ t.wholeSeconds) : t.toBinary = .finite false m e := by
  obtain ⟨hExp, hAbove⟩ := long_of_subsecond hOf hRead hPart hLong
  obtain ⟨hMantissa, hLowest, hHighest, -⟩ := hOf
  obtain ⟨hNegative, -, hSmall⟩ := bounds_of_subsecond hMantissa hRead hPart
  obtain ⟨num, den, hDen, hNumber, hError, -⟩ := exists_toBinary_eq hSmall
  rw [hNumber]
  apply ofQuotient_of_lt_half hDen hLowest hHighest hAbove hMantissa
  -- both errors together are less than half a unit
  have hHalfUnit : (2 : ℚ) ^ (-30 : ℤ) ≤ 2 ^ (e - 1) := two_zpow_le_iff.mpr (by omega)
  have hRounded := abs_le.mp (abs_nanoseconds_sub_le hRead)
  have hError' := abs_le.mp hError
  norm_num at hHalfUnit hError'
  rw [abs_lt]
  constructor <;> linarith

/-! ## Reading what is written -/

/-- A deadline with a part of a second that was read from a number of seconds is read back
from the number that it is written as. -/
theorem deadlineOfSeconds_toBinary (hOf : x.IsOf .double) (hRead : deadlineOfSeconds x = .ok t)
    (hPart : t.subsecond ≠ 0) : deadlineOfSeconds t.toBinary = .ok t := by
  rcases Nat.lt_or_ge t.wholeSeconds (2 ^ 23) with hShort | hLong
  · exact deadlineOfSeconds_toBinary_of_lt hPart hShort
  · obtain ⟨m, e, rfl, -, hRead'⟩ := deadlineOfSeconds_eq_ok_iff.mp hRead
    rw [toBinary_eq_of_le hOf hRead' hPart hLong]
    exact hRead

/-- Whole seconds that were read from a number of the format are some mantissa and
exponent of it. -/
theorem exists_mantissa_of_whole {k m : ℕ} {e : ℤ} (hOf : (Binary.finite false m e).IsOf .double)
    (hPositive : 0 < m) (hRead : ofBinary? (.finite false m e) = some (.ofSeconds k)) :
    (k : ℚ) < 2 ^ 64 ∧
      ∃ (m' : ℕ) (e' : ℤ), m' < 2 ^ 53 ∧ -1074 ≤ e' ∧ e' < 971 ∧ (k : ℚ) = m' * 2 ^ e' := by
  obtain ⟨hMantissa, hLowest, -, -⟩ := hOf
  have hBound := (ofBinary?_eq_some_iff.mp hRead).1
  rcases lt_or_ge e 0 with hNegative | hNonneg
  · -- the seconds are few enough to be a mantissa
    have hHalf : (2 : ℚ) ^ e ≤ 2 ^ (-1 : ℤ) := two_zpow_le_iff.mpr (by omega)
    have hMantissaCast : (m : ℚ) < 2 ^ 53 := by exact_mod_cast hMantissa
    have hScaled := mul_le_mul_of_nonneg_left hHalf (Nat.cast_nonneg (α := ℚ) m)
    have hRounded := (abs_le.mp (abs_nanoseconds_sub_le hRead)).2
    rw [ofSeconds] at hRounded
    push_cast at hRounded
    rw [cast_nanosPerSecond] at hRounded
    rw [zpow_neg_one] at hScaled
    have hSmall : (k : ℚ) < 2 ^ 53 := by linarith
    refine ⟨by linarith, k, 0, by exact_mod_cast hSmall, by decide, by decide, by simp⟩
  · -- the number is a whole one, and was not rounded
    obtain ⟨n, rfl⟩ := Int.eq_ofNat_of_zero_le hNonneg
    have hValue : (m : ℚ) * 2 ^ (n : ℤ) = (m * 2 ^ n : ℕ) := by
      push_cast
      rw [zpow_natCast]
    have hSeconds : k = m * 2 ^ n := by
      have hEq := eq_ofSeconds hRead hValue
      rw [← wholeSeconds_ofSeconds k, hEq, wholeSeconds_ofSeconds]
    rw [← hSeconds] at hValue
    have hPower : (2 : ℚ) ^ (n : ℤ) < 2 ^ (64 : ℤ) := by
      have hOne : (1 : ℚ) ≤ m := by exact_mod_cast hPositive
      calc (2 : ℚ) ^ (n : ℤ) = 1 * 2 ^ (n : ℤ) := (one_mul _).symm
        _ ≤ m * 2 ^ (n : ℤ) := mul_le_mul_of_nonneg_right hOne (two_zpow_pos _).le
        _ < 2 ^ (64 : ℤ) := by exact_mod_cast hBound
    rw [two_zpow_lt_iff] at hPower
    exact ⟨hValue ▸ hBound, m, n, hMantissa, hLowest, by omega, hValue.symm⟩

/-- A deadline of whole seconds that was read from a number of seconds is read back from
the number of its seconds, unless this is zero. -/
theorem deadlineOfSeconds_wholeSeconds (hOf : x.IsOf .double)
    (hRead : deadlineOfSeconds x = .ok t) (hWhole : t.subsecond = 0) (hTime : t ≠ .zero) :
    deadlineOfSeconds (.ofNat .double t.wholeSeconds) = .ok t := by
  obtain ⟨m, e, rfl, hPositive, hRead⟩ := deadlineOfSeconds_eq_ok_iff.mp hRead
  obtain ⟨k, rfl⟩ : ∃ k, t = .ofSeconds k := ⟨_, eq_ofSeconds_of_subsecond hWhole⟩
  obtain ⟨hBound, m', e', hMantissa, hLowest, hHighest, hValue⟩ :=
    exists_mantissa_of_whole hOf hPositive hRead
  have hPos : 0 < k := by
    rcases Nat.eq_zero_or_pos k with rfl | hSome
    · exact absurd rfl hTime
    · exact hSome
  rw [wholeSeconds_ofSeconds]
  exact deadlineOfSeconds_ofNat hPos hBound hMantissa hLowest hHighest hValue

end ReviewPanel
