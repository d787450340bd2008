import TreeDump.Proofs.Number.ShortestText
import Mathlib.Algebra.Order.Field.Rat
import Mathlib.Algebra.Order.Group.Abs
import Mathlib.Tactic.FieldSimp
import Mathlib.Tactic.Linarith
import Mathlib.Tactic.Positivity
import Mathlib.Tactic.Ring

/-!
# Rounding to binary64

A magnitude rounds to the nearest number, of two equally near to the one with the even significand,
and from the middle between the greatest finite magnitude and `2 ^ 1024` on to infinity. The main
statement is that a magnitude rounds to a finite number exactly if it is in the number's rounding
interval, whose ends are the middles between the number and its neighbours.
-/

namespace TreeDump

/-- Of two places the one on the side of the middle where `t` is is the nearer one. -/
lemma abs_sub_le_abs_sub_iff {a b t : ℚ} :
    |a - t| ≤ |b - t| ↔ 0 ≤ (b - a) * (a + b - 2 * t) := by
  have hsquares : (b - a) * (a + b - 2 * t) = (b - t) ^ 2 - (a - t) ^ 2 := by ring
  rw [hsquares, ← sq_le_sq, sub_nonneg]

lemma abs_sub_lt_abs_sub_iff {a b t : ℚ} :
    |a - t| < |b - t| ↔ 0 < (b - a) * (a + b - 2 * t) := by
  have hsquares : (b - a) * (a + b - 2 * t) = (b - t) ^ 2 - (a - t) ^ 2 := by ring
  rw [hsquares, ← sq_lt_sq, sub_pos]

/-- Whether a rational rounds to the value of an interval. -/
structure RoundingInterval.Holds (interval : RoundingInterval) (t : ℚ) : Prop where
  low : interval.low ≤ t
  high : t ≤ interval.high
  interior : interval.closed = false → interval.low < t ∧ t < interval.high

lemma RoundingInterval.holds_natCast_iff {interval : RoundingInterval} {point : Nat} :
    interval.Holds point ↔ interval.contains point = true := by
  rw [contains_iff]
  constructor
  · rintro ⟨hlow, hhigh, hinterior⟩
    exact ⟨by exact_mod_cast hlow, by exact_mod_cast hhigh, by exact_mod_cast hinterior⟩
  · rintro ⟨hlow, hhigh, hinterior⟩
    exact ⟨by exact_mod_cast hlow, by exact_mod_cast hhigh, by exact_mod_cast hinterior⟩

namespace Binary64

variable {x y : Binary64}

def Finite (x : Binary64) : Prop := x.exponentField < 2047

/-- The magnitude of a finite number. -/
def magnitude (x : Binary64) : ℚ := x.significand * 2 ^ x.scale / 2 ^ 1074

/-- The least magnitude that rounds to infinity. -/
def overflowBound : ℚ := 2 ^ 1024 - 2 ^ 970

/-- A magnitude rounds to a number, of either sign: to the nearest one, and of two equally near to
the one with the even significand. -/
structure RoundsTo (q : ℚ) (x : Binary64) : Prop where
  overflow : overflowBound ≤ q → x.isInfinite = true
  finite : q < overflowBound → x.Finite
  nearest : q < overflowBound → ∀ y : Binary64, y.Finite → |x.magnitude - q| ≤ |y.magnitude - q|
  even : q < overflowBound → ∀ y : Binary64, y.Finite → |x.magnitude - q| = |y.magnitude - q| →
    x.magnitude ≠ y.magnitude → x.significand % 2 = 0

/-- The place of a number's magnitude in the order of magnitudes. -/
def rank (x : Binary64) : Nat := x.exponentField * 2 ^ 52 + x.fractionField

lemma fields_lt_of_rank_lt (h : x.rank < y.rank) : x.exponentField < y.exponentField ∨
    x.exponentField = y.exponentField ∧ x.fractionField < y.fractionField := by
  have hx := x.fractionField_lt
  have hy := y.fractionField_lt
  unfold rank at h
  omega

lemma fields_eq_of_rank_eq (h : x.rank = y.rank) :
    x.exponentField = y.exponentField ∧ x.fractionField = y.fractionField := by
  have hx := x.fractionField_lt
  have hy := y.fractionField_lt
  unfold rank at h
  omega

lemma finite_iff_rank_lt : x.Finite ↔ x.rank < 2047 * 2 ^ 52 := by
  have hx := x.fractionField_lt
  unfold Finite rank
  omega

lemma isInfinite_iff_rank_eq : x.isInfinite = true ↔ x.rank = 2047 * 2 ^ 52 := by
  have hx := x.fractionField_lt
  simp only [isInfinite, rank, Bool.and_eq_true, decide_eq_true_eq]
  omega

lemma exists_rank_eq (rank : Nat) (h : rank < 2 ^ 63) : ∃ x : Binary64, x.rank = rank := by
  refine ⟨⟨.ofNat rank⟩, ?_⟩
  have hbits : (UInt64.ofNat rank).toNat = rank :=
    UInt64.toNat_ofNat_of_lt (h.trans (by decide))
  unfold Binary64.rank exponentField fractionField
  simp only [hbits, Nat.pow_eq]
  omega

lemma le_low_sub_reach (h : 0 < x.scale) :
    ∃ below, 2 ^ 54 - 2 ≤ below ∧ 4 * x.significand - x.reachBelow = below + x.reachBelow ∧
      4 * x.significand = below + 2 * x.reachBelow ∧ 2 ^ 54 ≤ below + 2 * x.reachBelow := by
  have hfraction := x.fractionField_lt
  refine ⟨4 * x.significand - 2 * x.reachBelow, ?_⟩
  unfold scale at h
  unfold reachBelow significand
  rw [if_neg (show x.exponentField ≠ 0 by omega), Nat.pow_eq]
  split <;> omega

/-- Of two magnitudes the lower one has its interval below the middle, the other one above it. -/
lemma middle_of_rank_lt (h : x.rank < y.rank) :
    2 * x.interval.high ≤ x.interval.value + y.interval.value ∧
      x.interval.value + y.interval.value ≤ 2 * y.interval.low := by
  rw [interval_high, interval_low, interval_value, interval_value]
  obtain hscale | ⟨hscale, hsignificand, hreach⟩ :=
    scale_or_significand_lt (fields_lt_of_rank_lt h)
  · obtain ⟨rise, hrise⟩ := Nat.exists_eq_add_of_lt hscale
    obtain ⟨below, hbelow, hlow, hfour, hnormal⟩ := y.le_low_sub_reach (by omega)
    have hx := x.significand_lt
    have hfactor : 2 ≤ 2 ^ (rise + 1) := Nat.le_self_pow (by omega) 2
    rw [hrise, Nat.add_assoc, unit_mul, hlow, hfour]
    generalize 2 ^ (rise + 1) = factor at hfactor
    generalize unit x.scale = step
    have hlowest : 2 * below ≤ below * factor := by
      rw [Nat.mul_comm]
      exact Nat.mul_le_mul_left _ hfactor
    have hreach : 2 * (below + 2 * y.reachBelow) ≤ (below + 2 * y.reachBelow) * factor := by
      rw [Nat.mul_comm]
      exact Nat.mul_le_mul_left _ hfactor
    constructor
    · calc 2 * ((4 * x.significand + 2) * step)
          = (8 * x.significand + 4) * step := by ring
        _ ≤ (4 * x.significand + (below + 2 * y.reachBelow) * factor) * step :=
          Nat.mul_le_mul_right _ (by omega)
        _ = _ := by ring
    · calc 4 * x.significand * step + (below + 2 * y.reachBelow) * (factor * step)
          = (4 * x.significand + below * factor + 2 * y.reachBelow * factor) * step := by ring
        _ ≤ (below * factor + below * factor + 2 * y.reachBelow * factor) * step :=
          Nat.mul_le_mul_right _ (by omega)
        _ = _ := by ring
  · rw [hscale, hreach]
    generalize unit y.scale = step
    constructor
    · calc 2 * ((4 * x.significand + 2) * step)
          = (8 * x.significand + 4) * step := by ring
        _ ≤ (4 * x.significand + 4 * y.significand) * step := Nat.mul_le_mul_right _ (by omega)
        _ = _ := by ring
    · calc 4 * x.significand * step + 4 * y.significand * step
          = (4 * x.significand + 4 * y.significand) * step := by ring
        _ ≤ (2 * (4 * y.significand - 2)) * step := Nat.mul_le_mul_right _ (by omega)
        _ = _ := by ring

/-- The intervals of neighbours touch. -/
lemma high_eq_low (h : y.rank = x.rank + 1) : x.interval.high = y.interval.low := by
  have hx := x.fractionField_lt
  have hy := y.fractionField_lt
  rw [interval_high, interval_low]
  unfold rank at h
  by_cases hcarry : x.exponentField = y.exponentField
  · have hscale : x.scale = y.scale := by rw [scale, scale, hcarry]
    have hsignificand : 4 * x.significand + 2 = 4 * y.significand - y.reachBelow := by
      unfold significand reachBelow
      rw [Nat.pow_eq]
      split <;> split <;> split <;> omega
    rw [hscale, hsignificand]
  · obtain ⟨hexponent, hlast, hfirst⟩ : y.exponentField = x.exponentField + 1 ∧
        x.fractionField = 2 ^ 52 - 1 ∧ y.fractionField = 0 := by omega
    by_cases hsubnormal : x.exponentField = 0
    · have hscale : x.scale = y.scale := by rw [scale, scale, hexponent, hsubnormal]
      have hsignificand : 4 * x.significand + 2 = 4 * y.significand - y.reachBelow := by
        unfold significand reachBelow
        rw [Nat.pow_eq]
        split <;> split <;> split <;> omega
      rw [hscale, hsignificand]
    · have hscale : y.scale = x.scale + 1 := by
        unfold scale
        omega
      have hsignificand : 4 * x.significand + 2 = (4 * y.significand - y.reachBelow) * 2 := by
        unfold significand reachBelow
        rw [Nat.pow_eq]
        split <;> split <;> split <;> omega
      rw [hscale, unit_mul, hsignificand, Nat.pow_one, Nat.mul_assoc]

/-! ### Rounding and intervals -/

/-- How many units of the intervals there are to one. -/
def unitsPerOne : ℚ := 2 ^ 1076 * 10 ^ 324

lemma unitsPerOne_pos : 0 < unitsPerOne := by
  unfold unitsPerOne
  positivity

lemma cast_unit (scale : Nat) : (unit scale : ℚ) = 2 ^ scale * 10 ^ 324 := by
  simp only [unit, Nat.pow_eq, Nat.cast_mul, Nat.cast_pow, Nat.cast_ofNat]

lemma cast_value (x : Binary64) : (x.interval.value : ℚ) = x.magnitude * unitsPerOne := by
  have hfour : (2 : ℚ) ^ 2 = 4 := by norm_num
  have hpow : (2 : ℚ) ^ 1076 = 2 ^ 2 * 2 ^ 1074 := pow_add 2 2 1074
  have hpos : (0 : ℚ) < 2 ^ 1074 := by positivity
  rw [interval_value, unitsPerOne, magnitude, hpow, hfour, Nat.cast_mul, Nat.cast_mul, Nat.cast_ofNat,
    cast_unit]
  generalize (2 : ℚ) ^ 1074 = denominator at hpos
  field_simp

lemma cast_low_of_isInfinite (h : x.isInfinite = true) :
    (x.interval.low : ℚ) = overflowBound * unitsPerOne := by
  simp only [isInfinite, Bool.and_eq_true, decide_eq_true_eq] at h
  have hscale : x.scale = 2046 := by rw [scale, h.1]
  have hfour : 4 * x.significand - x.reachBelow = 2 ^ 54 - 1 := by
    unfold significand reachBelow
    rw [h.1, h.2]
    rfl
  have hbound : (2 : ℚ) ^ 1024 = 2 ^ 970 * 2 ^ 54 := pow_add 2 970 54
  have hunit : (2 : ℚ) ^ 2046 = 2 ^ 970 * 2 ^ 1076 := pow_add 2 970 1076
  have hcast : ((2 ^ 54 - 1 : Nat) : ℚ) = 2 ^ 54 - 1 := by norm_num
  rw [interval_low, hfour, hscale, Nat.cast_mul, cast_unit, hcast, unitsPerOne, overflowBound,
    hbound, hunit]
  generalize (2 : ℚ) ^ 970 = least, (2 : ℚ) ^ 1076 = binary, (10 : ℚ) ^ 324 = decimal
  ring

lemma abs_sub_mul_unitsPerOne (x : Binary64) (q : ℚ) :
    |(x.interval.value : ℚ) - q * unitsPerOne| = |x.magnitude - q| * unitsPerOne := by
  rw [cast_value, ← sub_mul, abs_mul, abs_of_pos unitsPerOne_pos]

lemma magnitude_eq_of_rank_eq (h : x.rank = y.rank) : x.magnitude = y.magnitude := by
  obtain ⟨hexponent, hfraction⟩ := fields_eq_of_rank_eq h
  unfold magnitude scale significand
  rw [hexponent, hfraction]

lemma closed_eq_false_iff : x.interval.closed = false ↔ x.significand % 2 ≠ 0 :=
  decide_eq_false_iff_not

lemma low_eq_zero (h : x.significand = 0) : x.interval.low = 0 := by
  rw [interval_low, h, Nat.mul_zero, Nat.zero_sub, Nat.zero_mul]

lemma value_lt_high (x : Binary64) : x.interval.value < x.interval.high :=
  (Nat.le_add_right _ _).trans_lt x.value_add_place_lt_high

lemma value_lt_of_rank_lt (h : x.rank < y.rank) : x.interval.value < y.interval.value := by
  have hmiddle := middle_of_rank_lt h
  have hx := x.value_lt_high
  omega

/-- A number whose interval has a magnitude is nearer to it than any other number, at least if the
interval is open. -/
lemma nearest_of_holds {t : ℚ} (h : x.interval.Holds t) (hne : x.rank ≠ y.rank) :
    |(x.interval.value : ℚ) - t| ≤ |(y.interval.value : ℚ) - t| ∧
      (x.interval.closed = false →
        |(x.interval.value : ℚ) - t| < |(y.interval.value : ℚ) - t|) := by
  rw [abs_sub_le_abs_sub_iff, abs_sub_lt_abs_sub_iff]
  have hlow := h.low
  have hhigh := h.high
  rcases Nat.lt_or_gt_of_ne hne with hlt | hgt
  · have hmiddle : 2 * (x.interval.high : ℚ) ≤ x.interval.value + y.interval.value := by
      exact_mod_cast (middle_of_rank_lt hlt).1
    have hvalue : (x.interval.value : ℚ) < y.interval.value := by
      exact_mod_cast value_lt_of_rank_lt hlt
    constructor
    · exact mul_nonneg (by linarith) (by linarith)
    · intro hopen
      have hinterior := (h.interior hopen).2
      exact mul_pos (by linarith) (by linarith)
  · have hmiddle : (y.interval.value : ℚ) + x.interval.value ≤ 2 * x.interval.low := by
      exact_mod_cast (middle_of_rank_lt hgt).2
    have hvalue : (y.interval.value : ℚ) < x.interval.value := by
      exact_mod_cast value_lt_of_rank_lt hgt
    constructor
    · exact mul_nonneg_of_nonpos_of_nonpos (by linarith) (by linarith)
    · intro hopen
      have hinterior := (h.interior hopen).1
      exact mul_pos_of_neg_of_neg (by linarith) (by linarith)

lemma not_holds_of_rank_lt {t : ℚ} (h : x.rank < y.rank) (hx : x.interval.Holds t) :
    ¬ y.interval.Holds t := by
  intro hy
  obtain ⟨hends, htouch⟩ := interval_apart (fields_lt_of_rank_lt h)
  have hcast : (x.interval.high : ℚ) ≤ y.interval.low := by exact_mod_cast hends
  have hxhigh := hx.high
  have hylow := hy.low
  have heq : x.interval.high = y.interval.low := by
    have hequal : (x.interval.high : ℚ) = y.interval.low := by linarith
    exact_mod_cast hequal
  have hclosed := htouch heq
  cases hxclosed : x.interval.closed with
  | false =>
    have hinterior := (hx.interior hxclosed).2
    linarith
  | true =>
    rw [hxclosed] at hclosed
    have hinterior := (hy.interior (Bool.eq_false_iff.2 hclosed.symm)).1
    linarith

/-- Infinity has an even significand, so the end of the last finite interval is its own. -/
lemma lt_overflowBound_of_holds (hx : x.Finite) {q : ℚ} (h : x.interval.Holds (q * unitsPerOne)) :
    q < overflowBound := by
  obtain ⟨infinity, hrank⟩ := exists_rank_eq (2047 * 2 ^ 52) (by norm_num)
  have hinfinite := isInfinite_iff_rank_eq.2 hrank
  obtain ⟨hends, htouch⟩ := interval_apart (x := x) (y := infinity)
    (fields_lt_of_rank_lt (by rw [hrank]; exact finite_iff_rank_lt.1 hx))
  have hclosed : infinity.interval.closed = true := by
    simp only [isInfinite, Bool.and_eq_true, decide_eq_true_eq] at hinfinite
    rw [← Bool.not_eq_false, closed_eq_false_iff, significand, hinfinite.1, hinfinite.2]
    decide
  rw [hclosed] at htouch
  rw [← mul_lt_mul_iff_left₀ unitsPerOne_pos, ← cast_low_of_isInfinite hinfinite]
  rcases Nat.lt_or_eq_of_le hends with hlt | heq
  · exact h.high.trans_lt (by exact_mod_cast hlt)
  · rw [← heq]
    exact (h.interior (Bool.eq_false_iff.2 (htouch heq))).2

lemma RoundsTo.nearest_value {q : ℚ} (h : RoundsTo q x) (hbound : q < overflowBound) (hy : y.Finite)
    (hne : x.rank ≠ y.rank) :
    |(x.interval.value : ℚ) - q * unitsPerOne| ≤ |(y.interval.value : ℚ) - q * unitsPerOne| ∧
      (x.interval.closed = false → |(x.interval.value : ℚ) - q * unitsPerOne| <
        |(y.interval.value : ℚ) - q * unitsPerOne|) := by
  have hmagnitude : x.magnitude ≠ y.magnitude := by
    intro heq
    have hvalue : x.interval.value = y.interval.value := by
      rw [← Nat.cast_inj (R := ℚ), cast_value, cast_value, heq]
    rcases Nat.lt_or_gt_of_ne hne with hlt | hgt
    · exact (value_lt_of_rank_lt hlt).ne hvalue
    · exact (value_lt_of_rank_lt hgt).ne' hvalue
  rw [abs_sub_mul_unitsPerOne, abs_sub_mul_unitsPerOne, mul_le_mul_iff_left₀ unitsPerOne_pos,
    mul_lt_mul_iff_left₀ unitsPerOne_pos]
  have hnearest := h.nearest hbound y hy
  refine ⟨hnearest, fun hopen => lt_of_le_of_ne hnearest fun heq => ?_⟩
  exact closed_eq_false_iff.1 hopen (h.even hbound y hy heq hmagnitude)

/-- The lower end is the middle between the number and the one before it, if there is one. -/
lemma RoundsTo.low_le {q : ℚ} (h : RoundsTo q x) (hbound : q < overflowBound) (hx : x.Finite)
    (hq : 0 ≤ q) : x.interval.low ≤ q * unitsPerOne ∧
      (x.interval.closed = false → x.interval.low < q * unitsPerOne) := by
  by_cases hzero : x.rank = 0
  · have hsignificand : x.significand = 0 := by
      unfold rank at hzero
      rw [significand, if_pos (by omega)]
      omega
    rw [low_eq_zero hsignificand, closed_eq_false_iff, hsignificand, Nat.cast_zero]
    exact ⟨mul_nonneg hq unitsPerOne_pos.le, fun hodd => absurd rfl hodd⟩
  · have hrank := finite_iff_rank_lt.1 hx
    obtain ⟨y, hy⟩ := exists_rank_eq (x.rank - 1) (by omega)
    have hmiddle := middle_of_rank_lt (x := y) (y := x) (by omega)
    have htouch := high_eq_low (x := y) (y := x) (by omega)
    have hsum : (y.interval.value : ℚ) + x.interval.value = 2 * x.interval.low := by
      exact_mod_cast (show y.interval.value + x.interval.value = 2 * x.interval.low by omega)
    have hvalue : (y.interval.value : ℚ) < x.interval.value := by
      exact_mod_cast value_lt_of_rank_lt (x := y) (y := x) (by omega)
    have hnearest := h.nearest_value hbound (y := y) (finite_iff_rank_lt.2 (by omega)) (by omega)
    rw [abs_sub_le_abs_sub_iff, abs_sub_lt_abs_sub_iff] at hnearest
    constructor
    · have hproduct := nonpos_of_mul_nonneg_right hnearest.1 (sub_neg.2 hvalue)
      linarith
    · intro hopen
      have hproduct := neg_of_mul_pos_right (hnearest.2 hopen) (sub_neg.2 hvalue).le
      linarith

/-- The upper end is the middle between the number and the one after it, or where magnitudes begin
to round to infinity. -/
lemma RoundsTo.le_high {q : ℚ} (h : RoundsTo q x) (hbound : q < overflowBound) (hx : x.Finite) :
    q * unitsPerOne ≤ x.interval.high ∧
      (x.interval.closed = false → q * unitsPerOne < x.interval.high) := by
  have hrank := finite_iff_rank_lt.1 hx
  obtain ⟨y, hy⟩ := exists_rank_eq (x.rank + 1) (by omega)
  have htouch := high_eq_low hy
  by_cases hfinite : y.Finite
  · have hmiddle := middle_of_rank_lt (x := x) (y := y) (by omega)
    have hsum : (x.interval.value : ℚ) + y.interval.value = 2 * x.interval.high := by
      exact_mod_cast (show x.interval.value + y.interval.value = 2 * x.interval.high by omega)
    have hvalue : (x.interval.value : ℚ) < y.interval.value := by
      exact_mod_cast value_lt_of_rank_lt (x := x) (y := y) (by omega)
    have hnearest := h.nearest_value hbound hfinite (by omega)
    rw [abs_sub_le_abs_sub_iff, abs_sub_lt_abs_sub_iff] at hnearest
    constructor
    · have hproduct := nonneg_of_mul_nonneg_right hnearest.1 (sub_pos.2 hvalue)
      linarith
    · intro hopen
      have hproduct := (pos_iff_pos_of_mul_pos (hnearest.2 hopen)).1 (sub_pos.2 hvalue)
      linarith
  · have hinfinite : y.isInfinite = true := by
      rw [finite_iff_rank_lt] at hfinite
      exact isInfinite_iff_rank_eq.2 (by omega)
    have hlt : q * unitsPerOne < x.interval.high := by
      rw [htouch, cast_low_of_isInfinite hinfinite]
      exact mul_lt_mul_of_pos_right hbound unitsPerOne_pos
    exact ⟨hlt.le, fun _ => hlt⟩

/-- A magnitude rounds to a finite number exactly if it is in the number's rounding interval. -/
theorem roundsTo_iff_holds (hx : x.Finite) {q : ℚ} (hq : 0 ≤ q) :
    RoundsTo q x ↔ x.interval.Holds (q * unitsPerOne) := by
  have hrank := finite_iff_rank_lt.1 hx
  constructor
  · intro h
    have hbound : q < overflowBound := by
      by_contra hover
      have hinfinite := isInfinite_iff_rank_eq.1 (h.overflow (not_lt.1 hover))
      omega
    have hlow := h.low_le hbound hx hq
    have hhigh := h.le_high hbound hx
    exact ⟨hlow.1, hhigh.1, fun hopen => ⟨hlow.2 hopen, hhigh.2 hopen⟩⟩
  · intro h
    have hbound := lt_overflowBound_of_holds hx h
    refine ⟨fun hover => absurd hover (not_le.2 hbound), fun _ => hx, fun _ y hy => ?_,
      fun _ y hy heq hne => ?_⟩
    · rw [← mul_le_mul_iff_left₀ unitsPerOne_pos, ← abs_sub_mul_unitsPerOne,
        ← abs_sub_mul_unitsPerOne]
      by_cases hsame : x.rank = y.rank
      · rw [cast_value, cast_value, magnitude_eq_of_rank_eq hsame]
      · exact (nearest_of_holds h hsame).1
    · by_contra hodd
      have hnearer := (nearest_of_holds h fun hsame => hne (magnitude_eq_of_rank_eq hsame)).2
        (closed_eq_false_iff.2 hodd)
      rw [abs_sub_mul_unitsPerOne, abs_sub_mul_unitsPerOne, heq] at hnearer
      exact lt_irrefl _ hnearer

/-- A magnitude rounds to numbers of one magnitude only. -/
theorem RoundsTo.rank_eq {q : ℚ} (hq : 0 ≤ q) (hx : RoundsTo q x) (hy : RoundsTo q y) :
    x.rank = y.rank := by
  rcases lt_or_ge q overflowBound with hbound | hover
  · have hxholds := (roundsTo_iff_holds (hx.finite hbound) hq).1 hx
    have hyholds := (roundsTo_iff_holds (hy.finite hbound) hq).1 hy
    rcases Nat.lt_trichotomy x.rank y.rank with hlt | heq | hgt
    · exact absurd hyholds (not_holds_of_rank_lt hlt hxholds)
    · exact heq
    · exact absurd hxholds (not_holds_of_rank_lt hgt hyholds)
  · rw [isInfinite_iff_rank_eq.1 (hx.overflow hover), isInfinite_iff_rank_eq.1 (hy.overflow hover)]

end Binary64

end TreeDump
