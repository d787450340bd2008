import TreeDump.Proofs.Number.DecimalText
import Mathlib.Algebra.Order.Field.Rat
import Mathlib.Data.List.DropRight
import Mathlib.Data.List.Induction
import Mathlib.Tactic.FieldSimp
import Mathlib.Tactic.Positivity
import Mathlib.Tactic.Ring

/-!
# Positional numerals

A numeral has digits before the point and perhaps digits after it. Zeros at either end of all its
digits are not significant. The text of a number with places is the numeral of that number which has
no superfluous zero, and no other numeral of the number has fewer significant digits.
-/

namespace TreeDump.Decimal

/-- The digits from the first to the last that is not zero. -/
def significant (digits : List Char) : List Char :=
  (digits.dropWhile (· = '0')).rdropWhile (· = '0')

/-- Digits before and after the point. -/
structure Numeral where
  whole : List Char
  places : List Char
  whole_ne_nil : whole ≠ []
  isDigit_whole : ∀ c ∈ whole, c.isDigit
  isDigit_places : ∀ c ∈ places, c.isDigit

namespace Numeral

def digits (numeral : Numeral) : List Char := numeral.whole ++ numeral.places

/-- The text of a numeral, in which the point stands only before digits. -/
def text (numeral : Numeral) : String :=
  String.ofList
    (numeral.whole ++ if numeral.places = [] then [] else '.' :: numeral.places)

/-- The number that a numeral denotes. -/
def value (numeral : Numeral) : ℚ :=
  Nat.ofDigitChars 10 numeral.digits 0 / 10 ^ numeral.places.length

/-- No leading zero but that of a whole part zero, and no zero after the other places. -/
structure Canonical (numeral : Numeral) : Prop where
  leading : numeral.whole.head? = some '0' → numeral.whole = ['0']
  trailing : numeral.places.getLast? ≠ some '0'

lemma isDigit_digits (numeral : Numeral) : ∀ c ∈ numeral.digits, c.isDigit := by
  intro c hc
  cases List.mem_append.1 hc with
  | inl hc => exact numeral.isDigit_whole c hc
  | inr hc => exact numeral.isDigit_places c hc

lemma text_injective {numeral other : Numeral} (h : numeral.text = other.text) :
    numeral = other := by
  obtain ⟨whole, places, hwhole, hdigits, hplaces⟩ := numeral
  obtain ⟨whole', places', hwhole', hdigits', hplaces'⟩ := other
  have htexts := String.ofList_injective h
  obtain ⟨rfl, hends⟩ := append_inj_of_stop hdigits hdigits' (by split <;> simp)
    (by split <;> simp) htexts
  have hrest : places = places' := by
    dsimp only at hends
    split at hends <;> split at hends <;> simp_all
  subst hrest
  rfl

lemma toList_text_ne_cons (numeral : Numeral) {c : Char} (hc : c.isDigit = false)
    (rest : List Char) : numeral.text.toList ≠ c :: rest := by
  obtain ⟨first, digits, hwhole⟩ := List.exists_cons_of_ne_nil numeral.whole_ne_nil
  have hdigit := numeral.isDigit_whole first (by simp [hwhole])
  intro htext
  rw [text, String.toList_ofList, hwhole, List.cons_append] at htext
  rw [(List.cons.inj htext).1, hc] at hdigit
  cases hdigit

lemma value_nonneg (numeral : Numeral) : 0 ≤ numeral.value := by
  unfold value
  positivity

end Numeral

section Significant

variable {digits : List Char} {c : Char}

lemma sub_zero_pos (h : c.isDigit) (hzero : c ≠ '0') : 0 < c.toNat - '0'.toNat := by
  have hbounds := isDigit_bounds h
  have hne : c.toNat ≠ '0'.toNat := fun heq => hzero (Char.toNat_inj.1 heq)
  omega

lemma ofDigitChars_lt (h : ∀ c ∈ digits, c.isDigit) :
    Nat.ofDigitChars 10 digits 0 < 10 ^ digits.length := by
  induction digits using List.reverseRecOn with
  | nil => simp
  | append_singleton digits c ih =>
    have hrest := ih fun d hd => h d (by simp [hd])
    have hdigit := sub_zero_lt_ten (h c (by simp))
    rw [ofDigitChars_concat, List.length_append, List.length_singleton, Nat.pow_succ]
    omega

lemma ofDigitChars_dropWhile (digits : List Char) :
    Nat.ofDigitChars 10 (digits.dropWhile (· = '0')) 0 = Nat.ofDigitChars 10 digits 0 := by
  induction digits with
  | nil => rfl
  | cons c digits ih =>
    rw [List.dropWhile_cons]
    split
    · next h =>
      obtain rfl : c = '0' := by simpa using h
      rw [ih, Nat.ofDigitChars_cons, Nat.sub_self, Nat.mul_zero]
    · rfl

lemma exists_ofDigitChars_rdropWhile (digits : List Char) :
    ∃ zeros, Nat.ofDigitChars 10 digits 0 =
      Nat.ofDigitChars 10 (digits.rdropWhile (· = '0')) 0 * 10 ^ zeros := by
  induction digits using List.reverseRecOn with
  | nil => exact ⟨0, rfl⟩
  | append_singleton digits c ih =>
    rw [List.rdropWhile_concat]
    split
    · next h =>
      obtain rfl : c = '0' := by simpa using h
      obtain ⟨zeros, hzeros⟩ := ih
      refine ⟨zeros + 1, ?_⟩
      rw [ofDigitChars_concat, hzeros, Nat.sub_self, Nat.add_zero, Nat.pow_succ]
      ring
    · exact ⟨0, by rw [Nat.pow_zero, Nat.mul_one]⟩

lemma exists_ofDigitChars_significant (digits : List Char) :
    ∃ zeros, Nat.ofDigitChars 10 digits 0 =
      Nat.ofDigitChars 10 (significant digits) 0 * 10 ^ zeros := by
  rw [← ofDigitChars_dropWhile]
  exact exists_ofDigitChars_rdropWhile _

lemma prefix_significant (digits : List Char) :
    significant digits <+: digits.dropWhile (· = '0') := List.rdropWhile_prefix _ _

lemma isDigit_significant (h : ∀ c ∈ digits, c.isDigit) : ∀ c ∈ significant digits, c.isDigit :=
  fun c hc => h c ((List.dropWhile_sublist _).subset ((prefix_significant digits).subset hc))

/-- Significant digits do not begin with a zero, so they denote a number of their length. -/
lemma pow_le_ofDigitChars_significant (h : ∀ c ∈ digits, c.isDigit) (hne : significant digits ≠ []) :
    10 ^ ((significant digits).length - 1) ≤ Nat.ofDigitChars 10 (significant digits) 0 := by
  obtain ⟨first, rest, hfirst⟩ := List.exists_cons_of_ne_nil hne
  have hdrop : digits.dropWhile (· = '0') ≠ [] := (prefix_significant digits).ne_nil hne
  have hhead : (digits.dropWhile (· = '0')).head hdrop = first := by
    rw [← (prefix_significant digits).head hne]
    simp only [hfirst, List.head_cons]
  have hzero : first ≠ '0' := by
    have hnot := List.head_dropWhile_not (fun c => decide (c = '0')) hdrop
    rw [hhead] at hnot
    simpa using hnot
  have hdigit := sub_zero_pos (isDigit_significant h first (by simp [hfirst])) hzero
  rw [hfirst, Nat.ofDigitChars_cons, Nat.ofDigitChars_eq_ofDigitChars_zero, Nat.mul_zero,
    Nat.zero_add, List.length_cons, Nat.add_sub_cancel]
  exact (Nat.le_mul_of_pos_right _ hdigit).trans (Nat.le_add_right _ _)

lemma not_ten_dvd_ofDigitChars_significant (h : ∀ c ∈ digits, c.isDigit)
    (hne : significant digits ≠ []) : ¬ 10 ∣ Nat.ofDigitChars 10 (significant digits) 0 := by
  have hlast : (significant digits).getLast hne ≠ '0' := by
    have hnot := List.rdropWhile_last_not (fun c => decide (c = '0')) _ hne
    rw [decide_eq_true_eq] at hnot
    exact hnot
  have hdigit := isDigit_significant h _ (List.getLast_mem hne)
  have hpos := sub_zero_pos hdigit hlast
  have hlt := sub_zero_lt_ten hdigit
  rw [← List.dropLast_append_getLast hne, ofDigitChars_concat]
  omega

/-- A number has no fewer digits than any numeral of it has significant ones. -/
lemma length_significant_le (h : ∀ c ∈ digits, c.isDigit) {shift n zeros count : Nat}
    (heq : Nat.ofDigitChars 10 digits 0 * 10 ^ shift = n * 10 ^ zeros) (hn : n < 10 ^ count) :
    (significant digits).length ≤ count := by
  by_cases hne : significant digits = []
  · rw [hne]
    exact Nat.zero_le count
  · obtain ⟨rest, hrest⟩ := exists_ofDigitChars_significant digits
    have hlength := pow_le_ofDigitChars_significant h hne
    have hends := not_ten_dvd_ofDigitChars_significant h hne
    rw [hrest, Nat.mul_assoc, ← Nat.pow_add] at heq
    generalize Nat.ofDigitChars 10 (significant digits) 0 = core at hlength hends heq
    have hpos : 0 < 10 ^ (rest + shift) := Nat.pow_pos (by decide)
    have hle : core ≤ n := by
      rcases Nat.lt_or_ge (rest + shift) zeros with hlt | hge
      · obtain ⟨more, hmore⟩ := Nat.exists_eq_add_of_lt hlt
        have hcore : core * 10 ^ (rest + shift) = 10 * (n * 10 ^ more) * 10 ^ (rest + shift) := by
          rw [heq, hmore]
          ring
        exact absurd ⟨_, Nat.eq_of_mul_eq_mul_right hpos hcore⟩ hends
      · refine Nat.le_of_mul_le_mul_right ?_ hpos
        rw [heq]
        exact Nat.mul_le_mul_left _ (Nat.pow_le_pow_right (by decide) hge)
    have hexponent : (significant digits).length - 1 < count :=
      (Nat.pow_lt_pow_iff_right (by decide)).1 ((hlength.trans hle).trans_lt hn)
    omega

end Significant

lemma toDigits_eq_of_head? {n : Nat} (h : (Nat.toDigits 10 n).head? = some '0') :
    Nat.toDigits 10 n = ['0'] := by
  induction n using Nat.strongRecOn with
  | ind n ih =>
    rcases Nat.lt_or_ge n 10 with hlt | hge
    · rw [Nat.toDigits_of_lt_base hlt] at h ⊢
      obtain hzero := Option.some.inj h
      rw [hzero]
    · have hsplit := Nat.toDigits_append_toDigits (b := 10) (n := n / 10) (d := n % 10)
        (by decide) (by omega) (by omega)
      rw [Nat.div_add_mod] at hsplit
      rw [← hsplit, List.head?_append_of_ne_nil _ Nat.toDigits_ne_nil] at h
      have hvalue := congrArg (Nat.ofDigitChars 10 · 0) (ih (n / 10) (by omega) h)
      rw [Nat.ofDigitChars_ten_toDigits, Nat.ofDigitChars_cons, Nat.ofDigitChars_nil] at hvalue
      omega

section Places

variable {places rest : Nat}

lemma length_placesOf_le (places rest : Nat) : (placesOf places rest).length ≤ places := by
  induction places generalizing rest with
  | zero => exact Nat.le_refl 0
  | succ places ih =>
    rw [placesOf_succ]
    split
    · exact Nat.zero_le _
    · exact Nat.succ_le_succ (ih _)

/-- The places denote what they are the places of, up to zeros that are left out. -/
lemma ofDigitChars_placesOf (h : rest < 10 ^ places) :
    Nat.ofDigitChars 10 (placesOf places rest) 0 *
      10 ^ (places - (placesOf places rest).length) = rest := by
  induction places generalizing rest with
  | zero =>
    rw [Nat.pow_zero, Nat.lt_one_iff] at h
    subst h
    rfl
  | succ places ih =>
    rw [placesOf_succ]
    split
    · next hzero => rw [hzero, Nat.ofDigitChars_nil, Nat.zero_mul]
    · have hbelow := ih (Nat.mod_lt rest (Nat.pow_pos (n := places) (by decide : 0 < 10)))
      have hlength := length_placesOf_le places (rest % 10 ^ places)
      rw [List.length_cons, Nat.add_sub_add_right,
        Nat.ofDigitChars_cons_digitChar_of_lt_ten (div_pow_lt h),
        Nat.ofDigitChars_eq_ofDigitChars_zero, Nat.add_mul, hbelow, Nat.mul_zero, Nat.zero_add,
        Nat.mul_right_comm, ← Nat.pow_add, Nat.add_sub_cancel' hlength]
      exact Nat.div_add_mod rest (10 ^ places)

lemma getLast?_placesOf (h : rest < 10 ^ places) : (placesOf places rest).getLast? ≠ some '0' := by
  induction places generalizing rest with
  | zero => exact fun hlast => (nomatch hlast)
  | succ places ih =>
    have hpos : 0 < 10 ^ places := Nat.pow_pos (by decide)
    have hbelow := Nat.mod_lt rest hpos
    rw [placesOf_succ]
    split
    · exact fun hlast => (nomatch hlast)
    · next hrest =>
      cases hplaces : placesOf places (rest % 10 ^ places) with
      | nil =>
        have hzero := ofDigitChars_placesOf hbelow
        rw [hplaces, Nat.ofDigitChars_nil, Nat.zero_mul] at hzero
        have hdivision := Nat.div_add_mod rest (10 ^ places)
        rw [← hzero, Nat.add_zero] at hdivision
        intro hlast
        have hdigit : (rest / 10 ^ places).digitChar = (0 : Nat).digitChar := Option.some.inj hlast
        rw [digitChar_injective (div_pow_lt h) (by decide) hdigit, Nat.mul_zero] at hdivision
        exact hrest hdivision.symm
      | cons digit digits =>
        rw [List.getLast?_cons_cons, ← hplaces]
        exact ih hbelow

end Places

/-- The numeral of `units / 10 ^ places`. -/
def numeral (places units : Nat) : Numeral where
  whole := Nat.toDigits 10 (units / 10 ^ places)
  places := placesOf places (units % 10 ^ places)
  whole_ne_nil := Nat.toDigits_ne_nil
  isDigit_whole _ hc := Nat.isDigit_of_mem_toDigits (by decide) (by decide) hc
  isDigit_places _ hc := isDigit_placesOf (Nat.mod_lt units (Nat.pow_pos (by decide))) hc

lemma text_numeral (places units : Nat) : (numeral places units).text = fixed places units := by
  rw [← String.toList_inj, toList_fixed, toList_ofNat]
  exact String.toList_ofList

lemma canonical_numeral (places units : Nat) : (numeral places units).Canonical :=
  ⟨toDigits_eq_of_head?, getLast?_placesOf (Nat.mod_lt units (Nat.pow_pos (by decide)))⟩

lemma ofDigitChars_numeral (places units : Nat) :
    Nat.ofDigitChars 10 (numeral places units).digits 0 *
      10 ^ (places - (numeral places units).places.length) = units := by
  have hrest := Nat.mod_lt units (Nat.pow_pos (n := places) (by decide : 0 < 10))
  have hplaces := ofDigitChars_placesOf hrest
  have hlength := length_placesOf_le places (units % 10 ^ places)
  simp only [numeral, Numeral.digits]
  rw [Nat.ofDigitChars_append, Nat.ofDigitChars_ten_toDigits,
    Nat.ofDigitChars_eq_ofDigitChars_zero, Nat.add_mul, hplaces, Nat.mul_right_comm,
    ← Nat.pow_add, Nat.add_sub_cancel' hlength]
  exact Nat.div_add_mod units (10 ^ places)

lemma value_numeral (places units : Nat) : (numeral places units).value = units / 10 ^ places := by
  have hlength : (numeral places units).places.length ≤ places := length_placesOf_le ..
  have hunits : ((Nat.ofDigitChars 10 (numeral places units).digits 0 : Nat) : ℚ) *
      10 ^ (places - (numeral places units).places.length) = units := by
    exact_mod_cast ofDigitChars_numeral places units
  have hpow : (10 : ℚ) ^ places = 10 ^ (places - (numeral places units).places.length) *
      10 ^ (numeral places units).places.length := by
    rw [← pow_add, Nat.sub_add_cancel hlength]
  rw [Numeral.value, ← hunits, hpow]
  field_simp

end TreeDump.Decimal
