import TreeDump.Number.Shortest
import TreeDump.Proofs.Number.DecimalText
import Mathlib.Algebra.Order.Ring.Nat
import Mathlib.Tactic.ByContra

/-!
# Texts of binary64 numbers determine the numbers

The decimal that is written for a number rounds to that number, and no decimal rounds to two numbers
of different magnitude: the rounding intervals touch at most in their ends, and of two neighbours
only the one with the even significand has its ends. So numbers with the same text have the same
bits, unless both are no numbers.
-/

namespace TreeDump

namespace RoundingInterval

variable {interval : RoundingInterval}

lemma contains_iff {x : Nat} :
    interval.contains x = true ↔
      interval.low ≤ x ∧ x ≤ interval.high ∧
        (interval.closed = false → interval.low < x ∧ x < interval.high) := by
  unfold contains
  split
  · simp_all
  · simp_all
    omega

lemma place_pos : 0 < place := by decide +kernel

lemma contains_nearestPoint? {step point : Nat} (h : interval.nearestPoint? step = some point) :
    interval.contains (point * place) = true := by
  unfold nearestPoint? at h
  simp only at h
  split at h
  · next hbelow habove =>
    cases h
    split
    · exact hbelow
    · exact habove
  · next hbelow _ =>
    cases h
    exact hbelow
  · next _ habove =>
    cases h
    exact habove
  · cases h

/-- The finest grid has a point that rounds to the value, if it is finer than the interval. -/
lemma exists_nearestPoint? (hlow : interval.low ≤ interval.value)
    (hhigh : interval.value + place < interval.high) :
    ∃ point, interval.nearestPoint? 1 = some point := by
  have hdivision := Nat.div_add_mod' interval.value place
  have hremainder := Nat.mod_lt interval.value place_pos
  have habove : interval.contains ((interval.value / (1 * place) * 1 + 1) * place) = true := by
    rw [Nat.one_mul, Nat.mul_one, Nat.add_mul, Nat.one_mul, contains_iff]
    refine ⟨by omega, by omega, fun _ => ⟨by omega, by omega⟩⟩
  unfold nearestPoint?
  simp only [habove]
  cases interval.contains (interval.value / (1 * place) * 1 * place) with
  | true => exact ⟨_, rfl⟩
  | false => exact ⟨_, rfl⟩

lemma contains_shortest (hlow : interval.low ≤ interval.value)
    (hhigh : interval.value + place < interval.high) :
    interval.contains (interval.shortest * place) = true := by
  unfold shortest
  generalize (interval.high / place).log2 / 3 + 1 = grids
  induction grids with
  | zero =>
    obtain ⟨point, hpoint⟩ := exists_nearestPoint? hlow hhigh
    rw [firstPoint, hpoint]
    exact contains_nearestPoint? hpoint
  | succ grids ih =>
    rw [firstPoint]
    cases hpoint : interval.nearestPoint? (Nat.pow 10 (grids + 1)) with
    | none => exact ih
    | some point => exact contains_nearestPoint? hpoint

end RoundingInterval

namespace Binary64

variable {x y : Binary64}

lemma fractionField_lt (x : Binary64) : x.fractionField < 2 ^ 52 := Nat.mod_lt _ (by decide)

lemma ext_fields (hsign : x.isNegative = y.isNegative)
    (hexponent : x.exponentField = y.exponentField) (hfraction : x.fractionField = y.fractionField) :
    x = y := by
  obtain ⟨x⟩ := x
  obtain ⟨y⟩ := y
  simp only [isNegative, exponentField, fractionField, Nat.pow_eq, decide_eq_decide] at *
  have hx := x.toNat_lt
  have hy := y.toNat_lt
  have hbits : x.toNat = y.toNat := by omega
  exact congrArg mk (UInt64.toNat_inj.1 hbits)

def unit (scale : Nat) : Nat := Nat.pow 2 scale * Nat.pow 10 324

lemma place_lt_unit (scale : Nat) : RoundingInterval.place < unit scale := by
  have hplace : RoundingInterval.place < Nat.pow 10 324 := by decide +kernel
  exact hplace.trans_le (Nat.le_mul_of_pos_left _ (Nat.two_pow_pos scale))

/-- How far the interval reaches below the value, in quarters of a unit. -/
def reachBelow (x : Binary64) : Nat := if x.fractionField = 0 ∧ 1 < x.exponentField then 1 else 2

lemma interval_low (x : Binary64) :
    x.interval.low = (4 * x.significand - x.reachBelow) * unit x.scale := rfl

lemma interval_high (x : Binary64) :
    x.interval.high = (4 * x.significand + 2) * unit x.scale := rfl

lemma interval_value (x : Binary64) : x.interval.value = 4 * x.significand * unit x.scale := rfl

lemma low_le_value (x : Binary64) : x.interval.low ≤ x.interval.value := by
  rw [interval_low, interval_value]
  exact Nat.mul_le_mul_right _ (Nat.sub_le _ _)

lemma value_add_place_lt_high (x : Binary64) :
    x.interval.value + RoundingInterval.place < x.interval.high := by
  have hplace := place_lt_unit x.scale
  rw [interval_value, interval_high, Nat.add_mul]
  omega

lemma contains_interval_shortest (x : Binary64) :
    x.interval.contains (x.interval.shortest * RoundingInterval.place) = true :=
  RoundingInterval.contains_shortest x.low_le_value x.value_add_place_lt_high

lemma significand_lt (x : Binary64) : x.significand < 2 ^ 53 := by
  have := x.fractionField_lt
  unfold significand
  rw [Nat.pow_eq]
  split <;> omega

/-- Two numbers in the order of their magnitudes have the same scale and then the significands in
this order, or the second one has the greater scale. -/
lemma scale_or_significand_lt (h : x.exponentField < y.exponentField ∨
    x.exponentField = y.exponentField ∧ x.fractionField < y.fractionField) :
    x.scale < y.scale ∨
      x.scale = y.scale ∧ x.significand < y.significand ∧ y.reachBelow = 2 := by
  have hfraction := x.fractionField_lt
  unfold scale significand reachBelow
  simp only [Nat.pow_eq]
  split <;> split <;> split <;> omega

lemma unit_mul (low rise : Nat) : unit (low + rise) = 2 ^ rise * unit low := by
  have hpow : Nat.pow 2 (low + rise) = 2 ^ rise * Nat.pow 2 low := Nat.pow_add' 2 low rise
  rw [unit, unit, hpow, Nat.mul_assoc]

/-- The lowest end of an interval above the smallest scale, and which significand has it. -/
lemma le_low (h : 0 < y.scale) :
    2 ^ 54 - 1 ≤ 4 * y.significand - y.reachBelow ∧
      (4 * y.significand - y.reachBelow ≤ 2 ^ 54 - 1 → y.significand % 2 = 0) := by
  unfold scale at h
  unfold reachBelow significand
  rw [if_neg (show y.exponentField ≠ 0 by omega), Nat.pow_eq]
  split <;> omega

/-- Of two numbers of different magnitude the first has its interval below the other's, and if the
two touch then one of them is open. -/
lemma interval_apart (h : x.exponentField < y.exponentField ∨
    x.exponentField = y.exponentField ∧ x.fractionField < y.fractionField) :
    x.interval.high ≤ y.interval.low ∧
      (x.interval.high = y.interval.low → x.interval.closed ≠ y.interval.closed) := by
  have hclosed : ∀ z : Binary64, z.interval.closed = decide (z.significand % 2 = 0) := fun _ => rfl
  rw [interval_high, interval_low, hclosed, hclosed]
  obtain hscale | ⟨hscale, hsignificand, hreach⟩ := scale_or_significand_lt h
  · obtain ⟨rise, hrise⟩ := Nat.exists_eq_add_of_lt hscale
    have hunit : unit y.scale = 2 ^ (rise + 1) * unit x.scale := by
      rw [hrise, Nat.add_assoc, unit_mul]
    obtain ⟨hlow, hlowest⟩ := y.le_low (by omega)
    have hhigh := x.significand_lt
    have hfactor : 2 ≤ 2 ^ (rise + 1) := Nat.le_self_pow (by omega) 2
    have hgap : 2 * (4 * y.significand - y.reachBelow) ≤
        (4 * y.significand - y.reachBelow) * 2 ^ (rise + 1) := by
      rw [Nat.mul_comm]
      exact Nat.mul_le_mul_left _ hfactor
    rw [hunit, ← Nat.mul_assoc]
    constructor
    · exact Nat.mul_le_mul_right _ (by omega)
    · intro htouch hsame
      have hpos := RoundingInterval.place_pos.trans (place_lt_unit x.scale)
      have hnext := Nat.eq_of_mul_eq_mul_right hpos htouch
      have hparity := decide_eq_decide.1 hsame
      have heven := hlowest (by omega)
      omega
  · have hunit := RoundingInterval.place_pos.trans (place_lt_unit y.scale)
    rw [hscale, hreach]
    constructor
    · exact Nat.mul_le_mul_right _ (by omega)
    · intro htouch hsame
      have hnext := Nat.eq_of_mul_eq_mul_right hunit htouch
      have hparity := decide_eq_decide.1 hsame
      omega

lemma fields_eq_of_contains {point : Nat} (hx : x.interval.contains point = true)
    (hy : y.interval.contains point = true) :
    x.exponentField = y.exponentField ∧ x.fractionField = y.fractionField := by
  rw [RoundingInterval.contains_iff] at hx hy
  by_contra hne
  have horder : (x.exponentField < y.exponentField ∨
      x.exponentField = y.exponentField ∧ x.fractionField < y.fractionField) ∨
        y.exponentField < x.exponentField ∨
          y.exponentField = x.exponentField ∧ y.fractionField < x.fractionField := by
    omega
  cases horder with
  | inl h =>
    have hapart := interval_apart h
    cases hxclosed : x.interval.closed <;> cases hyclosed : y.interval.closed <;> grind
  | inr h =>
    have hapart := interval_apart h
    cases hxclosed : x.interval.closed <;> cases hyclosed : y.interval.closed <;> grind

lemma low_pos (h : x.isZero = false) : 0 < x.interval.low := by
  have hsignificand : 0 < x.significand := by
    unfold isZero at h
    unfold significand
    split
    · simp_all
      omega
    · exact Nat.add_pos_left (by decide) _
  have hreach : x.reachBelow ≤ 2 := by
    unfold reachBelow
    split <;> omega
  have hunit := RoundingInterval.place_pos.trans (place_lt_unit x.scale)
  rw [interval_low]
  exact Nat.mul_pos (by omega) hunit

lemma shortest_pos (h : x.isZero = false) : 0 < x.interval.shortest := by
  have hpoint := (RoundingInterval.contains_iff.1 x.contains_interval_shortest).1
  exact Nat.pos_of_mul_pos_right ((low_pos h).trans_le hpoint)

/-- The places of the finest decimals that the text of a finite number counts. -/
def places (x : Binary64) : Nat := if x.isZero then 0 else x.interval.shortest

lemma magnitudeText_eq (h : x.isInfinite = false) : x.magnitudeText = Decimal.fixed 324 x.places := by
  have hzero : Decimal.fixed 324 0 = "0" := by decide +kernel
  unfold magnitudeText places
  rw [h]
  split
  · next hinfinite => cases hinfinite
  · split
    · exact hzero.symm
    · rfl

lemma fields_eq_of_places (h : x.places = y.places) :
    x.exponentField = y.exponentField ∧ x.fractionField = y.fractionField := by
  unfold places at h
  cases hx : x.isZero <;> cases hy : y.isZero <;> simp only [hx, hy] at h
  · have hxpoint := x.contains_interval_shortest
    have hypoint := y.contains_interval_shortest
    simp only [Bool.false_eq_true, if_false] at h
    rw [h] at hxpoint
    exact fields_eq_of_contains hxpoint hypoint
  · have hpos := shortest_pos hx
    simp at h
    omega
  · have hpos := shortest_pos hy
    simp at h
    omega
  · simp only [isZero, Bool.and_eq_true, decide_eq_true_eq] at hx hy
    omega

lemma fields_eq_of_magnitudeText (h : x.magnitudeText = y.magnitudeText) :
    x.exponentField = y.exponentField ∧ x.fractionField = y.fractionField := by
  have hdigits : ∀ z : Binary64, z.isInfinite = false → z.magnitudeText ≠ "inf" := by
    intro z hz hinf
    have hletter : 'i' ∈ (Decimal.fixed 324 z.places).toList := by
      rw [← magnitudeText_eq hz, hinf]
      decide
    exact absurd (Decimal.mem_fixed hletter) (by decide)
  have hinf : ∀ z : Binary64, z.isInfinite = true → z.magnitudeText = "inf" := by
    intro z hz
    rw [magnitudeText, if_pos hz]
  cases hxinf : x.isInfinite <;> cases hyinf : y.isInfinite
  · rw [magnitudeText_eq hxinf, magnitudeText_eq hyinf] at h
    exact fields_eq_of_places (Decimal.fixed_injective h)
  · exact absurd (h.trans (hinf y hyinf)) (hdigits x hxinf)
  · exact absurd (h.symm.trans (hinf x hxinf)) (hdigits y hyinf)
  · simp only [isInfinite, Bool.and_eq_true, decide_eq_true_eq] at hxinf hyinf
    omega

lemma mem_magnitudeText {c : Char} (h : c ∈ x.magnitudeText.toList) :
    c.isDigit ∨ c = '.' ∨ c ∈ "inf".toList := by
  cases hx : x.isInfinite with
  | false =>
    rw [magnitudeText_eq hx] at h
    exact (Decimal.mem_fixed h).imp_right .inl
  | true =>
    rw [magnitudeText, if_pos hx] at h
    exact .inr (.inr h)

lemma magnitudeText_ne_minus_append (x : Binary64) (text : String) :
    x.magnitudeText ≠ "-" ++ text := by
  intro h
  have hminus : '-' ∈ x.magnitudeText.toList := by simp [h]
  exact absurd (mem_magnitudeText hminus) (by decide)

/-- What is no number, as one of the bit patterns that stand for it. -/
def nan : Binary64 := ⟨0x7ff8000000000000⟩

/-- The number, or one for all bit patterns that stand for none. -/
def normal (x : Binary64) : Binary64 := if x.isNaN then nan else x

lemma text_eq (h : x.isNaN = false) :
    x.text = if x.isNegative then "-" ++ x.magnitudeText else x.magnitudeText := by
  simp only [text, h, Bool.false_eq_true, if_false]

lemma mem_text (h : x.isNaN = false) {c : Char} (hc : c ∈ x.text.toList) :
    c.isDigit ∨ c = '.' ∨ c ∈ "-inf".toList := by
  have hmagnitude : c ∈ x.magnitudeText.toList → c.isDigit ∨ c = '.' ∨ c ∈ "-inf".toList :=
    fun hc => (mem_magnitudeText hc).imp_right (Or.imp_right (List.mem_cons_of_mem '-'))
  rw [text_eq h] at hc
  split at hc
  · rw [String.toList_append, List.mem_append] at hc
    cases hc with
    | inl hc =>
      obtain rfl : c = '-' := by simpa using hc
      exact .inr (.inr (by decide))
    | inr hc => exact hmagnitude hc
  · exact hmagnitude hc

lemma text_ne_nan (h : x.isNaN = false) : x.text ≠ "NaN" := by
  intro htext
  have hletter : 'N' ∈ x.text.toList := by
    rw [htext]
    decide
  exact absurd (mem_text h hletter) (by decide)

lemma text_of_isNaN (h : x.isNaN = true) : x.text = "NaN" := by
  rw [text, if_pos h]

/-- Numbers with the same text are the same bits, unless both are no numbers. -/
theorem normal_eq_of_text (h : x.text = y.text) : x.normal = y.normal := by
  unfold normal
  cases hx : x.isNaN <;> cases hy : y.isNaN
  · simp only [Bool.false_eq_true, if_false]
    rw [text_eq hx, text_eq hy] at h
    cases hxsign : x.isNegative <;> cases hysign : y.isNegative <;>
      simp only [hxsign, hysign, Bool.false_eq_true, if_false, if_true] at h
    · obtain ⟨hexponent, hfraction⟩ := fields_eq_of_magnitudeText h
      exact ext_fields (hxsign.trans hysign.symm) hexponent hfraction
    · exact absurd h (magnitudeText_ne_minus_append x _)
    · exact absurd h.symm (magnitudeText_ne_minus_append y _)
    · obtain ⟨hexponent, hfraction⟩ := fields_eq_of_magnitudeText ((String.append_right_inj "-").1 h)
      exact ext_fields (hxsign.trans hysign.symm) hexponent hfraction
  · exact absurd (h.trans (text_of_isNaN hy)) (text_ne_nan hx)
  · exact absurd (h.symm.trans (text_of_isNaN hx)) (text_ne_nan hy)
  · rfl

lemma text_ne_empty (x : Binary64) : x.text ≠ "" := by
  have hmagnitude : x.magnitudeText ≠ "" := by
    cases hx : x.isInfinite with
    | false =>
      rw [magnitudeText_eq hx]
      exact Decimal.fixed_ne_empty 324 x.places
    | true =>
      rw [magnitudeText, if_pos hx]
      decide
  unfold text
  split
  · decide
  · split
    · simp
    · exact hmagnitude

lemma newline_notMem_text (x : Binary64) : '\n' ∉ x.text.toList := by
  intro h
  cases hx : x.isNaN with
  | false => exact absurd (mem_text hx h) (by decide)
  | true =>
    rw [text_of_isNaN hx] at h
    exact absurd h (by decide)

end Binary64

end TreeDump
