import Mathlib.Algebra.Order.Field.Power
import Mathlib.Algebra.Order.Ring.Rat
import Mathlib.Data.Rat.Cast.Order
import Mathlib.Tactic.FieldSimp
import Mathlib.Tactic.Linarith
import Mathlib.Tactic.Positivity
import Mathlib.Tactic.Ring
import ReviewPanel.Numeric.Binary

/-!
# Rounding — how far a number is from what it stands for

Every operation on floating-point numbers rounds one exact quotient of naturals
(`Binary.ofQuotient`). The quotient lies in the range of one exponent; divided by the
power of two of this exponent it is rounded to the nearest natural, which is
the mantissa. So what is rounded is missed by half a unit of its exponent at
most, and a number that the format has is not missed at all.

* `abs_roundQuotient_sub_le`       — a natural is missed by one half at most.
* `naturalExponent_bounds`         — the exponent that a quotient has.
* `ofQuotient_of_lt_half`          — what is nearer to a number than half a unit.
* `ofQuotient_of_isOf`             — the numbers of the format are not rounded.
* `exists_ofQuotient_le_one`       — rounding does not lead beyond one.
* `exists_ofQuotient_of_lt`        — the error of rounding, by the size of the quotient.
* `isOf_ofQuotient`                — the result is a number of the format.
-/

namespace ReviewPanel.Numeric

/-! ## Rounding to naturals -/

section Naturals

variable {num den : ℕ}

/-- Rounding moves a quotient by a half at most. -/
theorem abs_roundQuotient_sub_le (num : ℕ) (hDen : 0 < den) :
    |(roundQuotient num den : ℚ) - num / den| ≤ 1 / 2 := by
  have hPos : (0 : ℚ) < den := by exact_mod_cast hDen
  set q := num / den with hq
  set r := num % den with hr
  have hNum : (num : ℚ) / den = q + r / den := by
    have hSplit : (num : ℚ) = den * q + r := by exact_mod_cast (Nat.div_add_mod num den).symm
    rw [hSplit]
    field_simp
  have hLow : (0 : ℚ) ≤ r / den := by positivity
  -- the part beyond the whole quotient, and which side of the middle it is on
  have hBelow : 2 * r ≤ den → (r : ℚ) / den ≤ 1 / 2 := by
    intro h
    have h' : (2 : ℚ) * r ≤ den := by exact_mod_cast h
    rw [div_le_iff₀ hPos]
    linarith
  have hAbove : den ≤ 2 * r → (1 : ℚ) / 2 ≤ r / den ∧ (r : ℚ) / den ≤ 1 := by
    intro h
    have h' : (den : ℚ) ≤ 2 * r := by exact_mod_cast h
    have hRest : (r : ℚ) ≤ den := by exact_mod_cast (Nat.mod_lt num hDen).le
    constructor
    · rw [le_div_iff₀ hPos]
      linarith
    · rw [div_le_one hPos]
      exact hRest
  have hDown : 2 * r ≤ den → |(q : ℚ) - (q + r / den)| ≤ 1 / 2 := by
    intro h
    have := hBelow h
    rw [abs_le]
    constructor <;> linarith
  have hUp : den ≤ 2 * r → |((q + 1 : ℕ) : ℚ) - (q + r / den)| ≤ 1 / 2 := by
    intro h
    have := hAbove h
    rw [abs_le]
    push_cast
    constructor <;> linarith
  rw [hNum, roundQuotient]
  simp only [← hq, ← hr]
  split
  · exact hDown (by omega)
  · split
    · exact hUp (by omega)
    · split
      · exact hDown (by omega)
      · exact hUp (by omega)

/-- The natural that a quotient is nearest to. -/
theorem roundQuotient_eq (hDen : 0 < den) {k : ℕ} (hNear : |(k : ℚ) - num / den| < 1 / 2) :
    roundQuotient num den = k := by
  have hRound := abs_roundQuotient_sub_le num hDen
  rw [abs_le] at hRound
  rw [abs_lt] at hNear
  have hLt : (roundQuotient num den : ℚ) < k + 1 := by linarith
  have hGt : (k : ℚ) < roundQuotient num den + 1 := by linarith
  have hLt' : roundQuotient num den < k + 1 := by exact_mod_cast hLt
  have hGt' : k < roundQuotient num den + 1 := by exact_mod_cast hGt
  omega

/-- Nothing is left of a quotient iff it is one half at most. -/
theorem roundQuotient_eq_zero_iff (hDen : 0 < den) : roundQuotient num den = 0 ↔ 2 * num ≤ den := by
  rcases Nat.lt_or_ge num den with hLt | hGe
  · -- less than one: the remainder is the number itself
    have hDiv : num / den = 0 := Nat.div_eq_of_lt hLt
    have hMod : num % den = num := Nat.mod_eq_of_lt hLt
    rw [roundQuotient]
    simp only [hDiv, hMod]
    split
    · omega
    · split
      · omega
      · simp
        omega
  · -- one or more: neither side holds
    have hDiv : 1 ≤ num / den := (Nat.one_le_div_iff hDen).mpr hGe
    constructor
    · intro hZero
      rw [roundQuotient] at hZero
      split at hZero
      · omega
      · split at hZero
        · omega
        · split at hZero <;> omega
    · intro hSmall
      omega

end Naturals

/-! ## Powers of two -/

theorem cast_pow_toNat {e : ℤ} (hExp : 0 ≤ e) : ((Nat.pow 2 e.toNat : ℕ) : ℚ) = 2 ^ e := by
  obtain ⟨n, rfl⟩ := Int.eq_ofNat_of_zero_le hExp
  simp

theorem two_zpow_pos (e : ℤ) : (0 : ℚ) < 2 ^ e := by positivity

theorem two_zpow_add (a b : ℤ) : (2 : ℚ) ^ (a + b) = 2 ^ a * 2 ^ b := zpow_add₀ two_ne_zero a b

theorem two_zpow_lt_iff {a b : ℤ} : (2 : ℚ) ^ a < 2 ^ b ↔ a < b :=
  zpow_lt_zpow_iff_right₀ one_lt_two

theorem two_zpow_le_iff {a b : ℤ} : (2 : ℚ) ^ a ≤ 2 ^ b ↔ a ≤ b :=
  zpow_le_zpow_iff_right₀ one_lt_two

/-- Scaling divides by a power of two. -/
theorem ratio_scaleDown (num den : ℕ) (e : ℤ) :
    ((scaleDown num den e).1 : ℚ) / (scaleDown num den e).2 = num / den / 2 ^ e := by
  rw [scaleDown]
  split
  · rename_i hExp
    rw [Nat.cast_mul, cast_pow_toNat hExp, div_div]
  · rename_i hExp
    rw [Nat.cast_mul, cast_pow_toNat (by omega), zpow_neg]
    field_simp

/-- Scaling leaves a quotient. -/
theorem scaleDown_den_pos (num : ℕ) {den : ℕ} (e : ℤ) (hDen : 0 < den) :
    0 < (scaleDown num den e).2 := by
  rw [scaleDown]
  split
  · exact Nat.mul_pos hDen (Nat.pow_pos two_pos)
  · exact hDen

namespace Binary

/-- The size of a finite number. -/
def magnitude : Binary → ℚ
  | .finite _ m e => m * 2 ^ e
  | _ => 0

/-- The quotient of a finite number is its size. -/
theorem ratio_quotient (m : ℕ) (e : ℤ) :
    ((quotient m e).1 : ℚ) / (quotient m e).2 = m * 2 ^ e := by
  rw [quotient]
  split
  · rename_i hExp
    rw [Nat.cast_mul, cast_pow_toNat hExp, Nat.cast_one, div_one]
  · rename_i hExp
    rw [cast_pow_toNat (by omega), zpow_neg, div_inv_eq_mul]

theorem quotient_den_pos {m : ℕ} {e : ℤ} : 0 < (quotient m e).2 := by
  rw [quotient]
  split
  · exact Nat.one_pos
  · exact Nat.pow_pos two_pos

theorem quotient_num_pos_iff {m : ℕ} {e : ℤ} : 0 < (quotient m e).1 ↔ 0 < m := by
  rw [quotient]
  split
  · exact Nat.mul_pos_iff_of_pos_right (Nat.pow_pos two_pos)
  · exact Iff.rfl

/-- The numbers of a format, in canonical form: the mantissa has full precision,
or the exponent is the lowest one. -/
def IsOf (f : Format) : Binary → Prop
  | .finite _ m e =>
    m < 2 ^ f.precision ∧ f.lowest ≤ e ∧ e ≤ f.highest ∧
      (2 ^ (f.precision - 1) ≤ m ∨ e = f.lowest)
  | _ => True

instance (f : Format) : ∀ x : Binary, Decidable (x.IsOf f)
  | .finite _ _ _ => inferInstanceAs (Decidable (_ ∧ _))
  | .infinite _ => .isTrue trivial
  | .notANumber => .isTrue trivial

/-! ## The exponent of a quotient -/

variable {f : Format} {num den : ℕ} {s : Bool} {m : ℕ} {e : ℤ}

/-- Where a natural lies between powers of two. -/
theorem log2_bounds {n : ℕ} (hPos : 0 < n) :
    (2 : ℚ) ^ (n.log2 : ℤ) ≤ n ∧ (n : ℚ) < 2 ^ ((n.log2 : ℤ) + 1) := by
  constructor
  · rw [zpow_natCast]
    exact_mod_cast Nat.log2_self_le hPos.ne'
  · have hLog : n < 2 ^ (n.log2 + 1) := Nat.lt_log2_self
    have hCast : (n : ℚ) < 2 ^ (n.log2 + 1) := by exact_mod_cast hLog
    exact_mod_cast hCast

/-- The two logarithms of a quotient leave two exponents open. -/
theorem ratio_bounds (hNum : 0 < num) (hDen : 0 < den) :
    (2 : ℚ) ^ ((num.log2 : ℤ) - den.log2 - 1) ≤ num / den ∧
      (num : ℚ) / den < 2 ^ ((num.log2 : ℤ) - den.log2 + 1) := by
  have hDenPos : (0 : ℚ) < den := by exact_mod_cast hDen
  obtain ⟨hNumLow, hNumHigh⟩ := log2_bounds hNum
  obtain ⟨hDenLow, hDenHigh⟩ := log2_bounds hDen
  -- both numbers lie between powers of two, and so does their quotient
  constructor
  · rw [le_div_iff₀ hDenPos]
    calc (2 : ℚ) ^ ((num.log2 : ℤ) - den.log2 - 1) * den
        ≤ 2 ^ ((num.log2 : ℤ) - den.log2 - 1) * 2 ^ ((den.log2 : ℤ) + 1) :=
          mul_le_mul_of_nonneg_left hDenHigh.le (two_zpow_pos _).le
      _ = 2 ^ (num.log2 : ℤ) := by
          rw [← two_zpow_add]
          congr 1
          ring
      _ ≤ num := hNumLow
  · rw [div_lt_iff₀ hDenPos]
    calc (num : ℚ) < 2 ^ ((num.log2 : ℤ) + 1) := hNumHigh
      _ = 2 ^ ((num.log2 : ℤ) - den.log2 + 1) * 2 ^ (den.log2 : ℤ) := by
          rw [← two_zpow_add]
          congr 1
          ring
      _ ≤ 2 ^ ((num.log2 : ℤ) - den.log2 + 1) * den :=
          mul_le_mul_of_nonneg_left hDenLow (two_zpow_pos _).le

/-- Where a quotient lies between powers of two. -/
theorem naturalExponent_bounds (hNum : 0 < num) (hDen : 0 < den) :
    (2 : ℚ) ^ (f.precision - 1 + naturalExponent f num den) ≤ num / den ∧
      (num : ℚ) / den < 2 ^ (f.precision + naturalExponent f num den) := by
  set l : ℤ := (num.log2 : ℤ) - den.log2 with hl
  obtain ⟨hLow, hHigh⟩ := ratio_bounds hNum hDen
  rw [← hl] at hLow hHigh
  -- one comparison decides between the two exponents
  have hScaled := ratio_scaleDown num den l
  have hScaledPos : (0 : ℚ) < (scaleDown num den l).2 := by
    exact_mod_cast scaleDown_den_pos num l hDen
  have hCompare : (scaleDown num den l).1 < (scaleDown num den l).2 ↔
      (num : ℚ) / den < 2 ^ l := by
    rw [← div_lt_one (two_zpow_pos l), ← hScaled, div_lt_one hScaledPos, Nat.cast_lt]
  have hExp : naturalExponent f num den =
      if (scaleDown num den l).1 < (scaleDown num den l).2 then l - f.precision
      else l - f.precision + 1 := rfl
  rw [hExp]
  by_cases hBelow : (scaleDown num den l).1 < (scaleDown num den l).2
  · rw [if_pos hBelow]
    constructor
    · convert hLow using 2
      ring
    · convert hCompare.mp hBelow using 2
      ring
  · rw [if_neg hBelow]
    have hReached : (2 : ℚ) ^ l ≤ num / den := not_lt.mp fun h => hBelow (hCompare.mpr h)
    constructor
    · convert hReached using 2
      ring
    · convert hHigh using 2
      ring

/-- The exponent that a quotient is rounded with. -/
def exponentOf (f : Format) (num den : ℕ) : ℤ := max f.lowest (naturalExponent f num den)

/-- The exponent is large enough for the mantissa to fit. -/
theorem lt_of_exponentOf (hNum : 0 < num) (hDen : 0 < den) :
    (num : ℚ) / den < 2 ^ (f.precision + exponentOf f num den) := by
  refine lt_of_lt_of_le (naturalExponent_bounds (f := f) hNum hDen).2 ?_
  rw [two_zpow_le_iff, exponentOf]
  have := le_max_right f.lowest (naturalExponent f num den)
  omega

/-- And no larger, unless it is the lowest of the format. -/
theorem le_of_exponentOf (hNum : 0 < num) (hDen : 0 < den)
    (hNotLowest : exponentOf f num den ≠ f.lowest) :
    (2 : ℚ) ^ (f.precision - 1 + exponentOf f num den) ≤ num / den := by
  have hExp : exponentOf f num den = naturalExponent f num den := by
    rw [exponentOf] at hNotLowest ⊢
    omega
  rw [hExp]
  exact (naturalExponent_bounds hNum hDen).1

/-- A quotient below a power of two has no higher exponent than this power. -/
theorem exponentOf_le (hNum : 0 < num) (hDen : 0 < den) (hLowest : f.lowest ≤ e)
    (hLt : (num : ℚ) / den < 2 ^ (f.precision + e)) : exponentOf f num den ≤ e := by
  have hBelow := lt_of_le_of_lt (naturalExponent_bounds (f := f) hNum hDen).1 hLt
  rw [two_zpow_lt_iff] at hBelow
  rw [exponentOf]
  omega

/-- A quotient in the range of an exponent has this exponent. -/
theorem exponentOf_eq (hNum : 0 < num) (hDen : 0 < den) (hLowest : f.lowest ≤ e)
    (hLt : (num : ℚ) / den < 2 ^ (f.precision + e))
    (hLe : (2 : ℚ) ^ (f.precision - 1 + e) ≤ num / den ∨ e = f.lowest) :
    exponentOf f num den = e := by
  apply le_antisymm (exponentOf_le hNum hDen hLowest hLt)
  rcases hLe with hLe | hLe
  · have hAbove := lt_of_le_of_lt hLe (naturalExponent_bounds (f := f) hNum hDen).2
    rw [two_zpow_lt_iff] at hAbove
    rw [exponentOf]
    omega
  · rw [hLe]
    exact le_max_left _ _

/-! ## Rounding to numbers -/

/-- The mantissa that a quotient is rounded to, before a carry. -/
def mantissaOf (f : Format) (num den : ℕ) : ℕ :=
  roundQuotient (scaleDown num den (exponentOf f num den)).1
    (scaleDown num den (exponentOf f num den)).2

/-- The mantissa is the quotient at the exponent, rounded. -/
theorem abs_mantissaOf_sub_le (f : Format) (num : ℕ) {den : ℕ} (hDen : 0 < den) :
    |(mantissaOf f num den : ℚ) - num / den / 2 ^ exponentOf f num den| ≤ 1 / 2 := by
  rw [← ratio_scaleDown, mantissaOf]
  exact abs_roundQuotient_sub_le _ (scaleDown_den_pos _ _ hDen)

/-- A mantissa is rounded up to the next power of two at most. -/
theorem mantissaOf_le (hNum : 0 < num) (hDen : 0 < den) :
    mantissaOf f num den ≤ 2 ^ f.precision := by
  have hLt := lt_of_exponentOf (f := f) hNum hDen
  rw [two_zpow_add, ← div_lt_iff₀ (two_zpow_pos _), zpow_natCast] at hLt
  have hNear := (abs_le.mp (abs_mantissaOf_sub_le f num hDen)).2
  have hCast : (mantissaOf f num den : ℚ) < 2 ^ f.precision + 1 := by linarith
  have hNat : mantissaOf f num den < 2 ^ f.precision + 1 := by exact_mod_cast hCast
  omega

/-- Below the lowest exponent aside, a mantissa has full precision. -/
theorem le_mantissaOf (hPrecision : 0 < f.precision) (hNum : 0 < num) (hDen : 0 < den)
    (hNotLowest : exponentOf f num den ≠ f.lowest) :
    2 ^ (f.precision - 1) ≤ mantissaOf f num den := by
  have hLe := le_of_exponentOf (f := f) hNum hDen hNotLowest
  have hCast : ((f.precision - 1 : ℕ) : ℤ) = f.precision - 1 := by omega
  rw [two_zpow_add, ← le_div_iff₀ (two_zpow_pos _), ← hCast, zpow_natCast] at hLe
  have hNear := (abs_le.mp (abs_mantissaOf_sub_le f num hDen)).1
  have hLt : ((2 ^ (f.precision - 1) : ℕ) : ℚ) < mantissaOf f num den + 1 := by
    push_cast
    linarith
  have hNat : 2 ^ (f.precision - 1) < mantissaOf f num den + 1 := by exact_mod_cast hLt
  omega

/-- A mantissa and an exponent after a carry: where the mantissa has grown beyond its
precision, the exponent takes over. -/
def carried (f : Format) (m : ℕ) (e : ℤ) : ℕ × ℤ :=
  if m < 2 ^ f.precision then (m, e) else (m / 2, e + 1)

/-- What a quotient is rounded to: its mantissa and exponent; or, where the mantissa
is carried over, the next exponent. -/
theorem ofQuotient_eq (hNum : 0 < num) :
    ofQuotient f s num den =
      if mantissaOf f num den < 2 ^ f.precision then
        if f.highest < exponentOf f num den then .infinite s
        else .finite s (mantissaOf f num den) (exponentOf f num den)
      else if f.highest < exponentOf f num den + 1 then .infinite s
      else .finite s (mantissaOf f num den / 2) (exponentOf f num den + 1) := by
  rw [ofQuotient, if_neg hNum.ne']
  set c := carried f (mantissaOf f num den) (exponentOf f num den) with hc
  change (if f.highest < c.2 then Binary.infinite s else .finite s c.1 c.2) = _
  rw [hc, carried]
  by_cases hSmall : mantissaOf f num den < 2 ^ f.precision
  · simp only [if_pos hSmall]
  · simp only [if_neg hSmall]

/-- A rounded quotient is a number of the format. -/
theorem isOf_ofQuotient (hPrecision : 0 < f.precision) (hRange : f.lowest ≤ f.highest)
    (hDen : 0 < den) : (ofQuotient f s num den).IsOf f := by
  rcases Nat.eq_zero_or_pos num with rfl | hNum
  · exact ⟨Nat.two_pow_pos _, le_rfl, hRange, Or.inr rfl⟩
  have hLowest : f.lowest ≤ exponentOf f num den := le_max_left _ _
  have hHalf : 2 * 2 ^ (f.precision - 1) = 2 ^ f.precision := mul_pow_sub_one hPrecision.ne' 2
  rw [ofQuotient_eq hNum]
  split
  · -- the mantissa fits, and is full unless the exponent is the lowest
    rename_i hSmall
    split
    · trivial
    · rename_i hFits
      refine ⟨hSmall, hLowest, not_lt.mp hFits, ?_⟩
      by_cases hExp : exponentOf f num den = f.lowest
      · exact Or.inr hExp
      · exact Or.inl (le_mantissaOf hPrecision hNum hDen hExp)
  · -- it was rounded up to the next power, so half of it goes with the next exponent
    rename_i hCarry
    split
    · trivial
    · rename_i hFits
      have hPower : mantissaOf f num den = 2 ^ f.precision :=
        le_antisymm (mantissaOf_le hNum hDen) (not_lt.mp hCarry)
      have hPos : 0 < 2 ^ (f.precision - 1) := Nat.two_pow_pos _
      refine ⟨by omega, by omega, not_lt.mp hFits, Or.inl (by omega)⟩

/-- What is nearer to a number of the format than half a unit is rounded to it. -/
theorem ofQuotient_of_near (hNum : 0 < num) (hDen : 0 < den) (hMantissa : m < 2 ^ f.precision)
    (hHighest : e ≤ f.highest) (hExp : exponentOf f num den = e)
    (hNear : |(m : ℚ) - num / den / 2 ^ e| < 1 / 2) : ofQuotient f s num den = .finite s m e := by
  have hRound : mantissaOf f num den = m := by
    rw [mantissaOf, hExp]
    rw [← ratio_scaleDown] at hNear
    exact roundQuotient_eq (scaleDown_den_pos _ _ hDen) hNear
  rw [ofQuotient_eq hNum, hRound, hExp, if_pos hMantissa, if_neg (not_lt.mpr hHighest)]

/-- What is less than half a unit away from a number of full precision is rounded to it,
unless the number is a power of two, below which units are smaller. -/
theorem ofQuotient_of_lt_half (hDen : 0 < den) (hLowest : f.lowest ≤ e) (hHighest : e ≤ f.highest)
    (hAbove : 2 ^ (f.precision - 1) < m) (hMantissa : m < 2 ^ f.precision)
    (hNear : |(m : ℚ) * 2 ^ e - num / den| < 2 ^ (e - 1)) :
    ofQuotient f s num den = .finite s m e := by
  have hUnit := two_zpow_pos e
  have hHalf : (2 : ℚ) ^ (e - 1) = 2 ^ e / 2 := by
    rw [zpow_sub_one₀ two_ne_zero, div_eq_mul_inv]
  rw [hHalf] at hNear
  -- in units of the exponent, the quotient is less than a half away from the mantissa
  have hScaled : |(m : ℚ) - num / den / 2 ^ e| < 1 / 2 := by
    have hSplit : (m : ℚ) - num / den / 2 ^ e = (m * 2 ^ e - num / den) / 2 ^ e := by
      rw [sub_div, mul_div_cancel_right₀ _ hUnit.ne']
    rw [hSplit, abs_div, abs_of_pos hUnit, div_lt_iff₀ hUnit]
    linarith
  have hLow : ((2 ^ (f.precision - 1) : ℕ) : ℚ) + 1 ≤ m := by exact_mod_cast hAbove
  have hHigh : (m : ℚ) + 1 ≤ ((2 ^ f.precision : ℕ) : ℚ) := by exact_mod_cast hMantissa
  obtain ⟨hFromBelow, hFromAbove⟩ := abs_lt.mp hScaled
  have hNum : 0 < num := by
    rcases Nat.eq_zero_or_pos num with rfl | hSome
    · rw [Nat.cast_zero, zero_div, zero_div] at hFromAbove
      have hPower : (0 : ℚ) ≤ ((2 ^ (f.precision - 1) : ℕ) : ℚ) := Nat.cast_nonneg _
      linarith
    · exact hSome
  refine ofQuotient_of_near hNum hDen hMantissa hHighest ?_ hScaled
  -- so its exponent is this one: the mantissa neither overflows nor has a free bit
  apply exponentOf_eq hNum hDen hLowest
  · rw [two_zpow_add, ← div_lt_iff₀ hUnit, zpow_natCast]
    push_cast at hHigh
    linarith
  · left
    have hPower : (2 : ℚ) ^ ((f.precision : ℤ) - 1) ≤ ((2 ^ (f.precision - 1) : ℕ) : ℚ) := by
      rw [Nat.cast_pow, Nat.cast_ofNat, ← zpow_natCast, two_zpow_le_iff]
      omega
    rw [two_zpow_add, ← le_div_iff₀ hUnit]
    linarith

/-- Rounding leaves the numbers of the format as they are. -/
theorem ofQuotient_of_isOf (hNum : 0 < num) (hDen : 0 < den) (hOf : (finite s m e).IsOf f)
    (hValue : (num : ℚ) / den = m * 2 ^ e) : ofQuotient f s num den = .finite s m e := by
  obtain ⟨hMantissa, hLowest, hHighest, hCanonical⟩ := hOf
  have hCast : (m : ℚ) < 2 ^ (f.precision : ℤ) := by
    rw [zpow_natCast]
    exact_mod_cast hMantissa
  -- a canonical number has the exponent that the quotient is scaled by
  have hExp : exponentOf f num den = e := by
    apply exponentOf_eq hNum hDen hLowest
    · rw [hValue, two_zpow_add]
      exact mul_lt_mul_of_pos_right hCast (two_zpow_pos e)
    · refine hCanonical.imp_left fun hFull => ?_
      have hFull' : (2 : ℚ) ^ ((f.precision : ℤ) - 1) ≤ m := by
        refine le_trans (b := ((2 ^ (f.precision - 1) : ℕ) : ℚ)) ?_ (by exact_mod_cast hFull)
        rw [Nat.cast_pow, Nat.cast_ofNat, ← zpow_natCast, two_zpow_le_iff]
        omega
      rw [hValue, two_zpow_add]
      exact mul_le_mul_of_nonneg_right hFull' (two_zpow_pos e).le
  have hScaled : (num : ℚ) / den / 2 ^ e = m := by
    rw [hValue, mul_div_assoc, div_self (two_zpow_pos e).ne', mul_one]
  apply ofQuotient_of_near hNum hDen hMantissa hHighest hExp
  rw [hScaled, sub_self, abs_zero]
  norm_num

/-- Where no exponent is too high, a quotient is rounded to a finite number, whose size
is that of the mantissa before a carry. -/
theorem exists_ofQuotient_eq (hPrecision : 0 < f.precision) (hNum : 0 < num) (hDen : 0 < den)
    (hFits : exponentOf f num den < f.highest) :
    ∃ m e, ofQuotient f s num den = .finite s m e ∧
      (m : ℚ) * 2 ^ e = mantissaOf f num den * 2 ^ exponentOf f num den := by
  rw [ofQuotient_eq hNum]
  by_cases hSmall : mantissaOf f num den < 2 ^ f.precision
  · rw [if_pos hSmall, if_neg (not_lt.mpr hFits.le)]
    exact ⟨_, _, rfl, rfl⟩
  · rw [if_neg hSmall, if_neg (by omega)]
    refine ⟨_, _, rfl, ?_⟩
    have hPower : mantissaOf f num den = 2 ^ f.precision :=
      le_antisymm (mantissaOf_le hNum hDen) (not_lt.mp hSmall)
    have hHalf : mantissaOf f num den / 2 = 2 ^ (f.precision - 1) := by
      rw [hPower, ← pow_sub_one_mul hPrecision.ne' 2, Nat.mul_div_cancel _ two_pos]
    have hDouble : (2 : ℚ) ^ f.precision = 2 ^ (f.precision - 1) * 2 :=
      (pow_sub_one_mul hPrecision.ne' 2).symm
    rw [hHalf, hPower, two_zpow_add, zpow_one]
    push_cast
    rw [hDouble]
    ring

/-- A quotient of at most one is rounded to a number of at most one, where the format has the
units below one. -/
theorem exists_ofQuotient_le_one (hPrecision : 0 < f.precision) (hDen : 0 < den)
    (hLowest : f.lowest ≤ 1 - f.precision) (hHighest : 1 - f.precision < f.highest)
    (hLe : num ≤ den) :
    ∃ m e, ofQuotient f s num den = .finite s m e ∧ (m : ℚ) * 2 ^ e ≤ 1 := by
  rcases Nat.eq_zero_or_pos num with rfl | hNum
  · exact ⟨0, f.lowest, rfl, by simp⟩
  have hRatio : (num : ℚ) / den ≤ 1 := by
    rw [div_le_one (by exact_mod_cast hDen)]
    exact_mod_cast hLe
  have hLt : (num : ℚ) / den < 2 ^ (f.precision + (1 - f.precision : ℤ)) := by
    rw [add_sub_cancel, zpow_one]
    linarith
  have hExp := exponentOf_le hNum hDen hLowest hLt
  obtain ⟨m, e, hRound, hValue⟩ :=
    exists_ofQuotient_eq (s := s) hPrecision hNum hDen (lt_of_le_of_lt hExp hHighest)
  refine ⟨m, e, hRound, ?_⟩
  rw [hValue]
  -- one is a whole number of units, so nothing below it is rounded beyond it
  obtain ⟨k, hk⟩ := Int.eq_ofNat_of_zero_le (show 0 ≤ -exponentOf f num den by omega)
  have hUnits : (2 : ℚ) ^ exponentOf f num den = ((2 ^ k : ℕ) : ℚ)⁻¹ := by
    rw [← neg_neg (exponentOf f num den), hk, zpow_neg]
    simp
  have hPos : (0 : ℚ) < ((2 ^ k : ℕ) : ℚ) := by positivity
  have hNear := (abs_le.mp (abs_mantissaOf_sub_le f num hDen)).2
  rw [hUnits, div_inv_eq_mul] at hNear
  have hScaled : (num : ℚ) / den * ((2 ^ k : ℕ) : ℚ) ≤ ((2 ^ k : ℕ) : ℚ) :=
    mul_le_of_le_one_left hPos.le hRatio
  have hBelow : (mantissaOf f num den : ℚ) < ((2 ^ k : ℕ) : ℚ) + 1 := by linarith
  have hWhole : mantissaOf f num den < 2 ^ k + 1 := by exact_mod_cast hBelow
  rw [hUnits, ← div_eq_mul_inv, div_le_one hPos]
  exact_mod_cast Nat.le_of_lt_succ hWhole

/-- The error of rounding a quotient that is less than a power of two. -/
theorem exists_ofQuotient_of_lt (hPrecision : 0 < f.precision) (hDen : 0 < den)
    (hLowest : f.lowest ≤ e) (hHighest : e < f.highest)
    (hLt : (num : ℚ) / den < 2 ^ (f.precision + e)) :
    ∃ m' e', ofQuotient f s num den = .finite s m' e' ∧
      |(m' : ℚ) * 2 ^ e' - num / den| ≤ 2 ^ (e - 1) := by
  rcases Nat.eq_zero_or_pos num with rfl | hNum
  · refine ⟨0, f.lowest, rfl, ?_⟩
    simpa using (two_zpow_pos (e - 1)).le
  have hExp := exponentOf_le hNum hDen hLowest hLt
  obtain ⟨m', e', hRound, hValue⟩ :=
    exists_ofQuotient_eq (s := s) hPrecision hNum hDen (lt_of_le_of_lt hExp hHighest)
  refine ⟨m', e', hRound, ?_⟩
  -- half a unit of the exponent that the quotient has
  have hUnit := two_zpow_pos (exponentOf f num den)
  have hNear := abs_mantissaOf_sub_le f num hDen
  have hScale : (m' : ℚ) * 2 ^ e' - num / den =
      (mantissaOf f num den - num / den / 2 ^ exponentOf f num den) *
        2 ^ exponentOf f num den := by
    rw [hValue, sub_mul, div_mul_cancel₀ _ hUnit.ne']
  calc |(m' : ℚ) * 2 ^ e' - num / den|
      ≤ 1 / 2 * 2 ^ exponentOf f num den := by
        rw [hScale, abs_mul, abs_of_pos hUnit]
        exact mul_le_mul_of_nonneg_right hNear hUnit.le
    _ = 2 ^ (exponentOf f num den - 1) := by
        rw [zpow_sub_one₀ two_ne_zero]
        ring
    _ ≤ 2 ^ (e - 1) := two_zpow_le_iff.mpr (by omega)

/-- A quotient that some mantissa and exponent of the format make up is rounded to
a number of just its size. -/
theorem exists_ofQuotient_of_value (hPrecision : 0 < f.precision) (hDen : 0 < den)
    (hMantissa : m < 2 ^ f.precision) (hLowest : f.lowest ≤ e) (hHighest : e < f.highest)
    (hValue : (num : ℚ) / den = m * 2 ^ e) :
    ∃ m' e', ofQuotient f s num den = .finite s m' e' ∧ (m' : ℚ) * 2 ^ e' = num / den := by
  rcases Nat.eq_zero_or_pos num with rfl | hNum
  · exact ⟨0, f.lowest, rfl, by simp⟩
  have hLt : (num : ℚ) / den < 2 ^ (f.precision + e) := by
    have hCast : (m : ℚ) < 2 ^ (f.precision : ℤ) := by
      rw [zpow_natCast]
      exact_mod_cast hMantissa
    rw [hValue, two_zpow_add]
    exact mul_lt_mul_of_pos_right hCast (two_zpow_pos e)
  have hExp := exponentOf_le hNum hDen hLowest hLt
  obtain ⟨m', e', hRound, hSize⟩ :=
    exists_ofQuotient_eq (s := s) hPrecision hNum hDen (lt_of_le_of_lt hExp hHighest)
  refine ⟨m', e', hRound, ?_⟩
  -- scaled by the exponent that it has, the quotient is a natural
  obtain ⟨k, hk⟩ := Int.eq_ofNat_of_zero_le (sub_nonneg.mpr hExp)
  have hScaled : (num : ℚ) / den / 2 ^ exponentOf f num den = ((m * 2 ^ k : ℕ) : ℚ) := by
    have hSplit : e = (k : ℤ) + exponentOf f num den := by omega
    rw [hValue]
    nth_rewrite 1 [hSplit]
    rw [two_zpow_add, zpow_natCast]
    push_cast
    field_simp
  have hWhole : mantissaOf f num den = m * 2 ^ k := by
    rw [mantissaOf]
    apply roundQuotient_eq (scaleDown_den_pos _ _ hDen)
    rw [ratio_scaleDown, hScaled, sub_self, abs_zero]
    norm_num
  rw [hSize, hWhole, ← hScaled, div_mul_cancel₀ _ (two_zpow_pos _).ne']

/-! ## Operations -/

/-- A quotient of numbers is the rounded quotient of their sizes. -/
theorem div_eq (f : Format) (s s' : Bool) (m : ℕ) {m' : ℕ} (e e' : ℤ) (hDivisor : 0 < m') :
    ∃ num den, 0 < den ∧
      div f (.finite s m e) (.finite s' m' e') = ofQuotient f (s != s') num den ∧
      (num : ℚ) / den = m * 2 ^ e / (m' * 2 ^ e') := by
  have hDen : 0 < (quotient m e).2 := quotient_den_pos
  have hNum' : 0 < (quotient m' e').1 := quotient_num_pos_iff.mpr hDivisor
  refine ⟨(quotient m e).1 * (quotient m' e').2, (quotient m e).2 * (quotient m' e').1,
    Nat.mul_pos hDen hNum', if_neg hDivisor.ne', ?_⟩
  rw [← ratio_quotient m e, ← ratio_quotient m' e']
  push_cast
  rw [div_div_div_eq]

/-- A sum of numbers is the rounded sum of their sizes. -/
theorem addMagnitudes_eq (f : Format) (s s' : Bool) (m m' : ℕ) (e e' : ℤ) :
    ∃ num den, 0 < den ∧
      addMagnitudes f (.finite s m e) (.finite s' m' e') = ofQuotient f false num den ∧
      (num : ℚ) / den = m * 2 ^ e + m' * 2 ^ e' := by
  have hDen : 0 < (quotient m e).2 := quotient_den_pos
  have hDen' : 0 < (quotient m' e').2 := quotient_den_pos
  refine ⟨(quotient m e).1 * (quotient m' e').2 + (quotient m' e').1 * (quotient m e).2,
    (quotient m e).2 * (quotient m' e').2, Nat.mul_pos hDen hDen', rfl, ?_⟩
  have hNe : ((quotient m e).2 : ℚ) ≠ 0 := by exact_mod_cast hDen.ne'
  have hNe' : ((quotient m' e').2 : ℚ) ≠ 0 := by exact_mod_cast hDen'.ne'
  rw [← ratio_quotient m e, ← ratio_quotient m' e', div_add_div _ _ hNe hNe']
  push_cast
  ring

end Binary

end ReviewPanel.Numeric
