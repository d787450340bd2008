import TreeDump.Proofs.Number.Numeral
import TreeDump.Proofs.Number.Rounding

/-!
# Texts of binary64 numbers are shortest

The grids of the multiples of `10 ^ k` lie in each other. If a grid has a point in an interval then
the search finds one on it or on a coarser one, and what the search finds has no more digits than
any decimal in the interval. So the text of a number reads back as that number, and every other
decimal that does has at least as many significant digits.
-/

namespace TreeDump

namespace RoundingInterval

variable {interval : RoundingInterval}

/-- An interval that has its value and, after that, a place of `10 ^ -324`. -/
structure Wide (interval : RoundingInterval) : Prop where
  value : interval.contains interval.value = true
  place : interval.value + place < interval.high

lemma contains_between {low point high : Nat} (hlow : interval.contains low = true)
    (hhigh : interval.contains high = true) (hle : low ≤ point) (hge : point ≤ high) :
    interval.contains point = true := by
  rw [contains_iff] at hlow hhigh ⊢
  refine ⟨hlow.1.trans hle, hge.trans hhigh.2.1, fun hopen => ⟨?_, ?_⟩⟩
  · exact (hlow.2.2 hopen).1.trans_le hle
  · exact hge.trans_lt (hhigh.2.2 hopen).2

lemma exists_eq_mul_of_nearestPoint? {step point : Nat}
    (h : interval.nearestPoint? step = some point) : ∃ n, point = n * step := by
  have hbelow : ∃ n, interval.value / (step * place) * step = n * step := ⟨_, rfl⟩
  have habove : ∃ n, interval.value / (step * place) * step + step = n * step :=
    ⟨interval.value / (step * place) + 1, (Nat.succ_mul _ _).symm⟩
  unfold nearestPoint? at h
  simp only at h
  split at h
  · cases h
    split
    · exact hbelow
    · exact habove
  · cases h
    exact hbelow
  · cases h
    exact habove
  · cases h

/-- A grid with a point in the interval has one next to the value. -/
lemma nearestPoint?_ne_none (h : interval.Wide) {step n : Nat} (hstep : 0 < step)
    (hpoint : interval.contains (n * step * place) = true) :
    interval.nearestPoint? step ≠ none := by
  have hsize : 0 < step * place := Nat.mul_pos hstep place_pos
  have hdivision := Nat.div_mul_le_self interval.value (step * place)
  have hnext := Nat.lt_div_mul_add hsize (a := interval.value)
  have hnear : interval.contains (interval.value / (step * place) * step * place) = true ∨
      interval.contains ((interval.value / (step * place) * step + step) * place) = true := by
    rw [Nat.add_mul, Nat.mul_assoc _ step place]
    rw [Nat.mul_assoc] at hpoint
    rcases Nat.lt_or_ge (interval.value / (step * place)) n with hlt | hge
    · right
      refine contains_between h.value hpoint hnext.le ?_
      rw [← Nat.succ_mul]
      exact Nat.mul_le_mul_right _ hlt
    · left
      exact contains_between hpoint h.value (Nat.mul_le_mul_right _ hge) hdivision
  unfold nearestPoint?
  simp only
  split
  · exact Option.some_ne_none _
  · exact Option.some_ne_none _
  · exact Option.some_ne_none _
  · next hbelow habove =>
    cases hnear with
    | inl hnear => simp_all
    | inr hnear => simp_all

/-- The search ends on the coarsest of its grids that has a point in the interval. -/
lemma firstPoint_cases (h : interval.Wide) (grids : Nat) :
    ∃ k n, interval.firstPoint grids = n * 10 ^ k ∧
      ∀ j, k < j → j ≤ grids → ∀ n, interval.contains (n * 10 ^ j * place) = false := by
  induction grids with
  | zero =>
    have hlow := (contains_iff.1 h.value).1
    obtain ⟨point, hpoint⟩ := exists_nearestPoint? hlow h.place
    refine ⟨0, point, ?_, fun j hlt hle => by omega⟩
    rw [firstPoint, hpoint, Option.getD_some, Nat.pow_zero, Nat.mul_one]
  | succ grids ih =>
    rw [firstPoint]
    cases hpoint : interval.nearestPoint? (Nat.pow 10 (grids + 1)) with
    | some point =>
      obtain ⟨n, hn⟩ := exists_eq_mul_of_nearestPoint? hpoint
      exact ⟨grids + 1, n, hn, fun j hlt hle => by omega⟩
    | none =>
      obtain ⟨k, n, hfirst, hcoarser⟩ := ih
      refine ⟨k, n, hfirst, fun j hlt hle m => ?_⟩
      rcases Nat.lt_or_eq_of_le hle with hbelow | rfl
      · exact hcoarser j hlt (by omega) m
      · rw [Bool.eq_false_iff]
        intro hcontains
        exact nearestPoint?_ne_none h (Nat.pow_pos (by decide)) hcontains hpoint

/-- Beyond the first grid of the search only zero is not above the upper end. -/
lemma high_lt_pow {high j : Nat} (h : (high / place).log2 / 3 + 1 ≤ j) : high < 10 ^ j * place := by
  have hplaces : high / place < 2 ^ ((high / place).log2 + 1) := Nat.lt_log2_self
  have hexponent : (high / place).log2 + 1 ≤ 3 * ((high / place).log2 / 3 + 1) := by omega
  have hpow : high / place < 10 ^ j := calc
    high / place < 2 ^ ((high / place).log2 + 1) := hplaces
    _ ≤ 2 ^ (3 * ((high / place).log2 / 3 + 1)) := Nat.pow_le_pow_right (by decide) hexponent
    _ = 8 ^ ((high / place).log2 / 3 + 1) := Nat.pow_mul 2 3 _
    _ ≤ 10 ^ ((high / place).log2 / 3 + 1) := Nat.pow_le_pow_left (by decide) _
    _ ≤ 10 ^ j := Nat.pow_le_pow_right (by decide) h
  exact (Nat.div_lt_iff_lt_mul place_pos).1 hpow

/-- No grid coarser than that of the shortest decimal has a point in the interval. -/
lemma shortest_cases (h : interval.Wide) (hzero : interval.contains 0 = false) :
    ∃ k n, interval.shortest = n * 10 ^ k ∧
      ∀ j, k < j → ∀ n, interval.contains (n * 10 ^ j * place) = false := by
  obtain ⟨k, n, hshortest, hcoarser⟩ :=
    firstPoint_cases h ((interval.high / place).log2 / 3 + 1)
  refine ⟨k, n, hshortest, fun j hlt m => ?_⟩
  rcases Nat.lt_or_ge ((interval.high / place).log2 / 3 + 1) j with hbeyond | hsearched
  · cases m with
    | zero => rw [Nat.zero_mul, Nat.zero_mul, hzero]
    | succ m =>
      rw [Bool.eq_false_iff]
      intro hcontains
      have hhigh := high_lt_pow hbeyond.le
      have hpoint := (contains_iff.1 hcontains).2.1
      rw [Nat.succ_mul, Nat.add_mul] at hpoint
      omega
  · exact hcoarser j hlt hsearched m

/-- The shortest decimal has no more digits than any decimal of the grids in the interval. -/
lemma shortest_of_contains (h : interval.Wide) (hzero : interval.contains 0 = false)
    {n j count : Nat} (hcontains : interval.contains (n * 10 ^ j * place) = true)
    (hn : n < 10 ^ count) :
    ∃ k m, interval.shortest = m * 10 ^ k ∧ m < 10 ^ count := by
  obtain ⟨k, m, hshortest, hcoarser⟩ := shortest_cases h hzero
  refine ⟨k, m, hshortest, ?_⟩
  have hj : j ≤ k := by
    by_contra hlt
    rw [hcoarser j (by omega) n] at hcontains
    cases hcontains
  by_contra hm
  cases count with
  | zero =>
    obtain rfl : n = 0 := by omega
    rw [Nat.zero_mul, Nat.zero_mul, hzero] at hcontains
    cases hcontains
  | succ count =>
    have hlow : n * 10 ^ j * place ≤ 10 ^ count * 10 ^ (k + 1) * place := by
      apply Nat.mul_le_mul_right
      calc n * 10 ^ j ≤ 10 ^ (count + 1) * 10 ^ k :=
            Nat.mul_le_mul hn.le (Nat.pow_le_pow_right (by decide) hj)
        _ = 10 ^ count * 10 ^ (k + 1) := by ring
    have hhigh : 10 ^ count * 10 ^ (k + 1) * place ≤ interval.shortest * place := by
      apply Nat.mul_le_mul_right
      calc 10 ^ count * 10 ^ (k + 1) = 10 ^ (count + 1) * 10 ^ k := by ring
        _ ≤ m * 10 ^ k := Nat.mul_le_mul_right _ (not_lt.1 hm)
        _ = interval.shortest := hshortest.symm
    have hbetween := contains_between hcontains
      (contains_shortest (contains_iff.1 h.value).1 h.place) hlow hhigh
    rw [hcoarser (k + 1) (by omega)] at hbetween
    cases hbetween

/-- Of two neighbours on the finest grid with a decimal of the interval between them one is in the
interval too. -/
lemma contains_or_contains_next (h : interval.Wide) {t : ℚ} (hholds : interval.Holds t)
    {floor : Nat} (hfloor : ((floor * place : Nat) : ℚ) ≤ t)
    (hceil : t < ((floor + 1) * place : Nat)) :
    interval.contains (floor * place) = true ∨ interval.contains ((floor + 1) * place) = true := by
  have hvalue := (contains_iff.1 h.value).1
  have hplace := h.place
  rcases Nat.lt_or_ge interval.value (floor * place) with habove | hbelow
  · left
    have hhigh : floor * place ≤ interval.high := by exact_mod_cast hfloor.trans hholds.high
    rw [contains_iff]
    refine ⟨by omega, hhigh, fun hopen => ⟨by omega, ?_⟩⟩
    exact_mod_cast hfloor.trans_lt (hholds.interior hopen).2
  · right
    have hlow : interval.low < (floor + 1) * place := by
      exact_mod_cast hholds.low.trans_lt hceil
    have hnext : (floor + 1) * place < interval.high := by
      rw [Nat.succ_mul]
      omega
    rw [contains_iff]
    exact ⟨hlow.le, hnext.le, fun _ => ⟨hlow, hnext⟩⟩

/-- If a decimal is in the interval, so is one on the grids, of no more digits. -/
lemma exists_contains_of_holds (h : interval.Wide) {n rise fall count : Nat}
    (hholds : interval.Holds (n * 10 ^ rise * place / 10 ^ fall)) (hn : n < 10 ^ count) :
    ∃ j m, interval.contains (m * 10 ^ j * place) = true ∧ m < 10 ^ count := by
  rcases Nat.lt_or_ge rise fall with hlt | hge
  · obtain ⟨finer, rfl⟩ := Nat.exists_eq_add_of_lt hlt
    have hfiner : (n * 10 ^ rise * place / 10 ^ (rise + finer + 1) : ℚ) =
        n * place / 10 ^ (finer + 1) := by
      rw [Nat.add_assoc, pow_add]
      generalize (place : ℚ) = size
      field_simp
    rw [hfiner] at hholds
    cases n with
    | zero =>
      refine ⟨0, 0, ?_, hn⟩
      rw [Nat.cast_zero, zero_mul, zero_div] at hholds
      rw [Nat.zero_mul, Nat.zero_mul, ← holds_natCast_iff, Nat.cast_zero]
      exact hholds
    | succ n =>
      have hsize : 0 < 10 ^ (finer + 1) := Nat.pow_pos (by decide)
      have hpow : (0 : ℚ) < 10 ^ (finer + 1) := by positivity
      have hfloor : (((n + 1) / 10 ^ (finer + 1) * place : Nat) : ℚ) ≤
          (n + 1 : Nat) * place / 10 ^ (finer + 1) := by
        rw [le_div_iff₀ hpow]
        have hle := Nat.mul_le_mul_right place (Nat.div_mul_le_self (n + 1) (10 ^ (finer + 1)))
        rw [Nat.mul_right_comm] at hle
        exact_mod_cast hle
      have hceil : ((n + 1 : Nat) * place / 10 ^ (finer + 1) : ℚ) <
          (((n + 1) / 10 ^ (finer + 1) + 1) * place : Nat) := by
        rw [div_lt_iff₀ hpow]
        have hlt := Nat.mul_lt_mul_of_pos_right (Nat.lt_div_mul_add hsize (a := n + 1)) place_pos
        rw [← Nat.succ_mul, Nat.mul_right_comm] at hlt
        exact_mod_cast hlt
      have hten : (n + 1) / 10 ^ (finer + 1) ≤ (n + 1) / 10 :=
        Nat.div_le_div_left (Nat.le_self_pow (by omega) 10) (by decide)
      cases contains_or_contains_next h hholds hfloor hceil with
      | inl hcontains => exact ⟨0, _, by rwa [Nat.pow_zero, Nat.mul_one], by omega⟩
      | inr hcontains => exact ⟨0, _, by rwa [Nat.pow_zero, Nat.mul_one], by omega⟩
  · obtain ⟨j, rfl⟩ := Nat.exists_eq_add_of_le hge
    refine ⟨j, n, holds_natCast_iff.1 ?_, hn⟩
    have hgrid : (n * 10 ^ (fall + j) * place / 10 ^ fall : ℚ) = (n * 10 ^ j * place : Nat) := by
      rw [Nat.cast_mul, Nat.cast_mul, Nat.cast_pow, Nat.cast_ofNat, pow_add]
      generalize (place : ℚ) = size
      field_simp
    rwa [hgrid] at hholds

end RoundingInterval

namespace Binary64

open RoundingInterval Decimal

variable {x y : Binary64}

def sign (x : Binary64) : String := if x.isNegative then "-" else ""

/-- A text without a sign reads as an infinity, or as a decimal that rounds to the number. -/
def ReadsMagnitude (text : String) (x : Binary64) : Prop :=
  text = "inf" ∧ x.isInfinite = true ∨
    ∃ numeral : Numeral, text = numeral.text ∧ RoundsTo numeral.value x

/-- A text reads as a number of its sign. -/
def Reads (text : String) (x : Binary64) : Prop :=
  ∃ magnitude, text = x.sign ++ magnitude ∧ ReadsMagnitude magnitude x

/-! ### The decimal that is written -/

lemma wide_interval (x : Binary64) : x.interval.Wide := by
  refine ⟨contains_iff.2 ⟨x.low_le_value, x.value_lt_high.le, fun hopen => ⟨?_, x.value_lt_high⟩⟩,
    x.value_add_place_lt_high⟩
  have hodd := closed_eq_false_iff.1 hopen
  have hunit := place_pos.trans (place_lt_unit x.scale)
  have hreach : 0 < x.reachBelow := by
    unfold reachBelow
    split <;> omega
  rw [interval_low, interval_value]
  exact Nat.mul_lt_mul_of_pos_right (by omega) hunit

lemma contains_zero (h : x.isZero = false) : x.interval.contains 0 = false := by
  rw [Bool.eq_false_iff]
  intro hcontains
  have hlow := low_pos h
  have hle := (contains_iff.1 hcontains).1
  omega

lemma contains_places (x : Binary64) : x.interval.contains (x.places * place) = true := by
  unfold places
  split
  · next h =>
    simp only [isZero, Bool.and_eq_true, decide_eq_true_eq] at h
    have hsignificand : x.significand = 0 := by rw [significand, if_pos h.1, h.2]
    rw [Nat.zero_mul, contains_iff, low_eq_zero hsignificand, closed_eq_false_iff, hsignificand]
    exact ⟨Nat.le_refl 0, Nat.zero_le _, fun hodd => absurd rfl hodd⟩
  · exact x.contains_interval_shortest

lemma cast_place : (place : ℚ) = 2 ^ 1076 := by
  unfold place
  generalize 1076 = exponent
  exact Nat.cast_pow 2 exponent

lemma numeral_value_mul (numeral : Numeral) : numeral.value * unitsPerOne =
    Nat.ofDigitChars 10 numeral.digits 0 * 10 ^ 324 * place / 10 ^ numeral.places.length := by
  rw [Numeral.value, unitsPerOne, cast_place]
  generalize (2 : ℚ) ^ 1076 = binary, (10 : ℚ) ^ 324 = decimal
  ring

lemma roundsTo_numeral (hx : x.Finite) : RoundsTo (numeral 324 x.places).value x := by
  have hunits : (numeral 324 x.places).value * unitsPerOne = (x.places * place : Nat) := by
    rw [value_numeral, unitsPerOne, Nat.cast_mul, cast_place]
    have hpos : (0 : ℚ) < 10 ^ 324 := by positivity
    generalize (2 : ℚ) ^ 1076 = binary
    generalize (10 : ℚ) ^ 324 = decimal at hpos
    field_simp
  rw [roundsTo_iff_holds hx (Numeral.value_nonneg _), hunits, holds_natCast_iff]
  exact x.contains_places

/-- No decimal that rounds to the number has fewer significant digits than the one that is
written. -/
lemma length_significant_numeral_le (hx : x.Finite) {other : Numeral}
    (hother : RoundsTo other.value x) :
    (significant (numeral 324 x.places).digits).length ≤ (significant other.digits).length := by
  have hdigits := ofDigitChars_numeral 324 x.places
  cases hzero : x.isZero with
  | true =>
    have hplaces : x.places = 0 * 10 ^ 0 := by rw [places, hzero, if_pos rfl, Nat.zero_mul]
    have hnone : (significant (numeral 324 x.places).digits).length ≤ 0 :=
      length_significant_le (Numeral.isDigit_digits _) (hdigits.trans hplaces) (by decide)
    exact hnone.trans (Nat.zero_le _)
  | false =>
    have hplaces : x.places = x.interval.shortest := by
      rw [places, hzero, if_neg (by decide)]
    have hholds := (roundsTo_iff_holds hx other.value_nonneg).1 hother
    obtain ⟨zeros, hzeros⟩ := exists_ofDigitChars_significant other.digits
    have hcount := ofDigitChars_lt (isDigit_significant other.isDigit_digits)
    rw [numeral_value_mul, hzeros, Nat.cast_mul, Nat.cast_pow, Nat.cast_ofNat, mul_assoc _ _ (10 ^ 324),
      ← pow_add] at hholds
    obtain ⟨j, m, hcontains, hm⟩ := exists_contains_of_holds x.wide_interval hholds hcount
    obtain ⟨k, n, hshortest, hn⟩ :=
      shortest_of_contains x.wide_interval (contains_zero hzero) hcontains hm
    exact length_significant_le (Numeral.isDigit_digits _)
      (hdigits.trans (hplaces.trans hshortest)) hn

lemma finite_or_isInfinite (h : x.isNaN = false) : x.Finite ∨ x.isInfinite = true := by
  have hexponent : x.exponentField < 2 ^ 11 := Nat.mod_lt _ (by decide)
  simp only [isNaN, Bool.and_eq_false_iff, decide_eq_false_iff_not, not_not] at h
  simp only [isInfinite, Finite, Bool.and_eq_true, decide_eq_true_eq]
  omega

lemma not_isInfinite (hx : x.Finite) : x.isInfinite = false := by
  unfold Finite at hx
  simp only [isInfinite, Bool.and_eq_false_iff, decide_eq_false_iff_not]
  omega

lemma magnitudeText_of_finite (hx : x.Finite) : x.magnitudeText = (numeral 324 x.places).text := by
  rw [magnitudeText_eq (not_isInfinite hx), text_numeral]

lemma magnitudeText_of_isInfinite (hx : x.isInfinite = true) : x.magnitudeText = "inf" := by
  rw [magnitudeText, if_pos hx]

lemma text_eq_sign_append (h : x.isNaN = false) : x.text = x.sign ++ x.magnitudeText := by
  rw [text_eq h, sign]
  split
  · rfl
  · rw [String.empty_append]

lemma readsMagnitude_magnitudeText (h : x.isNaN = false) : ReadsMagnitude x.magnitudeText x := by
  cases finite_or_isInfinite h with
  | inl hx => exact .inr ⟨_, magnitudeText_of_finite hx, roundsTo_numeral hx⟩
  | inr hx => exact .inl ⟨magnitudeText_of_isInfinite hx, hx⟩

lemma text_ne_inf (numeral : Numeral) : numeral.text ≠ "inf" := by
  intro htext
  have hletter := numeral.toList_text_ne_cons (c := 'i') (by decide) ['n', 'f']
  rw [htext] at hletter
  exact hletter rfl

lemma ReadsMagnitude.ne_minus_append {magnitude : String} (h : ReadsMagnitude magnitude x)
    (text : String) : magnitude ≠ "-" ++ text := by
  intro hminus
  obtain ⟨rfl, -⟩ | ⟨numeral, rfl, -⟩ := h
  · have hhead := congrArg (fun text => text.toList.head?) hminus
    simp at hhead
  · have hsign := numeral.toList_text_ne_cons (c := '-') (by decide) text.toList
    rw [hminus, String.toList_append] at hsign
    exact hsign rfl

lemma ReadsMagnitude.rank_eq {magnitude : String} (hx : ReadsMagnitude magnitude x)
    (hy : ReadsMagnitude magnitude y) : x.rank = y.rank := by
  obtain ⟨hxinf, hx⟩ | ⟨numeral, hxtext, hx⟩ := hx <;>
    obtain ⟨hyinf, hy⟩ | ⟨other, hytext, hy⟩ := hy
  · rw [isInfinite_iff_rank_eq.1 hx, isInfinite_iff_rank_eq.1 hy]
  · exact absurd (hytext.symm.trans hxinf) (text_ne_inf other)
  · exact absurd (hxtext.symm.trans hyinf) (text_ne_inf numeral)
  · obtain rfl := Numeral.text_injective (hxtext.symm.trans hytext)
    exact hx.rank_eq numeral.value_nonneg hy

lemma sign_append_injective {magnitude other : String}
    (h : ∀ text, magnitude ≠ "-" ++ text) (hother : ∀ text, other ≠ "-" ++ text)
    (heq : x.sign ++ magnitude = y.sign ++ other) :
    x.isNegative = y.isNegative ∧ magnitude = other := by
  unfold sign at heq
  cases hx : x.isNegative <;> cases hy : y.isNegative <;>
    simp only [hx, hy, Bool.false_eq_true, if_false, if_true, String.empty_append] at heq
  · exact ⟨rfl, heq⟩
  · exact absurd heq (h _)
  · exact absurd heq.symm (hother _)
  · exact ⟨rfl, (String.append_right_inj "-").1 heq⟩

lemma reads_text_iff (h : x.isNaN = false) : Reads x.text y ↔ y = x := by
  rw [text_eq_sign_append h]
  constructor
  · rintro ⟨magnitude, htext, hmagnitude⟩
    have hown := readsMagnitude_magnitudeText h
    obtain ⟨hsign, rfl⟩ :=
      sign_append_injective hown.ne_minus_append hmagnitude.ne_minus_append htext
    obtain ⟨hexponent, hfraction⟩ := fields_eq_of_rank_eq (hmagnitude.rank_eq hown)
    exact ext_fields hsign.symm hexponent hfraction
  · rintro rfl
    exact ⟨_, rfl, readsMagnitude_magnitudeText h⟩

/-- What is no number has one text. The text of any other bit pattern, with its sign, reads as that
pattern and as no other. For a finite number it is positional and without superfluous zeros, and no
decimal that rounds to the number has fewer significant digits. -/
theorem text_shortest (x : Binary64) :
    (x.isNaN = true → x.text = "NaN") ∧
      (x.isNaN = false → ∀ y, Reads x.text y ↔ y = x) ∧
      (x.isInfinite = true → x.text = x.sign ++ "inf") ∧
      (x.Finite → ∃ numeral : Numeral, x.text = x.sign ++ numeral.text ∧ numeral.Canonical ∧
        ∀ other : Numeral, RoundsTo other.value x →
          (significant numeral.digits).length ≤ (significant other.digits).length) := by
  refine ⟨text_of_isNaN, fun h y => reads_text_iff h, fun h => ?_, fun hx => ?_⟩
  · have hnumber : x.isNaN = false := by
      simp only [isInfinite, Bool.and_eq_true, decide_eq_true_eq] at h
      simp [isNaN, h.2]
    rw [text_eq_sign_append hnumber, magnitudeText_of_isInfinite h]
  · have hnumber : x.isNaN = false := by
      unfold Finite at hx
      simp only [isNaN, Bool.and_eq_false_iff, decide_eq_false_iff_not]
      omega
    refine ⟨numeral 324 x.places, ?_, canonical_numeral _ _,
      fun other hother => length_significant_numeral_le hx hother⟩
    rw [text_eq_sign_append hnumber, magnitudeText_of_finite hx]

theorem reads_tenth (y : Binary64) : Reads "0.1" y ↔ y = ⟨0x3FB999999999999A⟩ := by
  have htext : (⟨0x3FB999999999999A⟩ : Binary64).text = "0.1" := by decide +kernel
  have hnumber : (⟨0x3FB999999999999A⟩ : Binary64).isNaN = false := by decide
  rw [← htext]
  exact (text_shortest _).2.1 hnumber y

end Binary64

end TreeDump
