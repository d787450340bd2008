import TreeDump.Number.Decimal
import TreeDump.Proofs.Text.Splitting
import Mathlib.Algebra.Group.Nat.Defs

/-!
# Decimal texts determine their numbers

Different numbers have different texts, whole numbers as well as numbers with places. A text of a
number has digits, a sign and a point, and nothing else.
-/

namespace TreeDump.Decimal

lemma isDigit_bounds {c : Char} (h : c.isDigit) : '0'.toNat ≤ c.toNat ∧ c.toNat ≤ '9'.toNat := by
  simp only [Char.isDigit, Bool.and_eq_true, decide_eq_true_eq, ge_iff_le,
    UInt32.le_iff_toNat_le] at h
  exact h

lemma sub_zero_lt_ten {c : Char} (h : c.isDigit) : c.toNat - '0'.toNat < 10 := by
  have hbounds := isDigit_bounds h
  have hnine : '9'.toNat = '0'.toNat + 9 := rfl
  omega

lemma digitChar_sub_zero {c : Char} (h : c.isDigit) : (c.toNat - '0'.toNat).digitChar = c := by
  have hbounds := isDigit_bounds h
  apply Char.toNat_inj.1
  rw [Nat.toNat_digitChar_of_lt_ten (sub_zero_lt_ten h)]
  exact Nat.add_sub_cancel' hbounds.1

lemma ofDigitChars_concat (digits : List Char) (c : Char) :
    Nat.ofDigitChars 10 (digits ++ [c]) 0 =
      10 * Nat.ofDigitChars 10 digits 0 + (c.toNat - '0'.toNat) := by
  rw [Nat.ofDigitChars_append, Nat.ofDigitChars_cons, Nat.ofDigitChars_nil]

lemma toList_ofNat (n : Nat) : (ofNat n).toList = Nat.toDigits 10 n := String.toList_ofList

lemma ofNat_injective {m n : Nat} (h : ofNat m = ofNat n) : m = n := by
  have hdigits : Nat.toDigits 10 m = Nat.toDigits 10 n := String.ofList_injective h
  have hread := congrArg readDigits? hdigits
  rw [readDigits?_toDigits, readDigits?_toDigits] at hread
  exact Option.some.inj hread

lemma isDigit_ofNat {n : Nat} {c : Char} (h : c ∈ (ofNat n).toList) : c.isDigit := by
  rw [toList_ofNat] at h
  exact Nat.isDigit_of_mem_toDigits (by decide) (by decide) h

lemma ofNat_ne_minus_append (n : Nat) (text : String) : ofNat n ≠ "-" ++ text := by
  intro h
  have hminus : '-' ∈ (ofNat n).toList := by simp [h]
  exact absurd (isDigit_ofNat hminus) (by decide)

lemma ofInt_injective {m n : Int} (h : ofInt m = ofInt n) : m = n := by
  cases m with
  | ofNat m =>
    cases n with
    | ofNat n => exact congrArg Int.ofNat (ofNat_injective h)
    | negSucc n => exact absurd h (ofNat_ne_minus_append m _)
  | negSucc m =>
    cases n with
    | ofNat n => exact absurd h.symm (ofNat_ne_minus_append n _)
    | negSucc n =>
      have hdigits : ofNat (m + 1) = ofNat (n + 1) := String.append_right_inj "-" |>.1 h
      exact congrArg Int.negSucc (Nat.succ.inj (ofNat_injective hdigits))

lemma mem_ofInt {n : Int} {c : Char} (h : c ∈ (ofInt n).toList) : c.isDigit ∨ c = '-' := by
  cases n with
  | ofNat n => exact .inl (isDigit_ofNat h)
  | negSucc n =>
    rw [ofInt, String.toList_append, List.mem_append] at h
    cases h with
    | inl h => exact .inr (by simpa using h)
    | inr h => exact .inl (isDigit_ofNat h)

lemma digitChar_injective {m n : Nat} (hm : m < 10) (hn : n < 10)
    (h : m.digitChar = n.digitChar) : m = n := by
  have hall : ∀ m < 10, ∀ n < 10, m.digitChar = n.digitChar → m = n := by decide
  exact hall m hm n hn h

lemma isDigit_digitChar {n : Nat} (h : n < 10) : n.digitChar.isDigit := by
  have hall : ∀ n < 10, n.digitChar.isDigit := by decide
  exact hall n h

lemma placesOf_succ (places rest : Nat) :
    placesOf (places + 1) rest =
      if rest = 0 then []
      else (rest / 10 ^ places).digitChar :: placesOf places (rest % 10 ^ places) := rfl

lemma div_pow_lt {places rest : Nat} (h : rest < 10 ^ (places + 1)) : rest / 10 ^ places < 10 :=
  Nat.div_lt_of_lt_mul (by rwa [← Nat.pow_succ])

lemma placesOf_injective {places m n : Nat} (hm : m < 10 ^ places) (hn : n < 10 ^ places)
    (h : placesOf places m = placesOf places n) : m = n := by
  induction places generalizing m n with
  | zero =>
    rw [Nat.pow_zero] at hm hn
    omega
  | succ places ih =>
    rw [placesOf_succ, placesOf_succ] at h
    by_cases hmzero : m = 0
    · by_cases hnzero : n = 0
      · rw [hmzero, hnzero]
      · rw [if_pos hmzero, if_neg hnzero] at h
        cases h
    · by_cases hnzero : n = 0
      · rw [if_neg hmzero, if_pos hnzero] at h
        cases h
      · rw [if_neg hmzero, if_neg hnzero] at h
        obtain ⟨hdigit, hrest⟩ := List.cons.inj h
        have hquotient := digitChar_injective (div_pow_lt hm) (div_pow_lt hn) hdigit
        have hpos : 0 < 10 ^ places := Nat.pow_pos (by omega)
        have hremainder := ih (Nat.mod_lt m hpos) (Nat.mod_lt n hpos) hrest
        rw [← Nat.div_add_mod m (10 ^ places), ← Nat.div_add_mod n (10 ^ places), hquotient,
          hremainder]

lemma isDigit_placesOf {places rest : Nat} (h : rest < 10 ^ places) {c : Char}
    (hc : c ∈ placesOf places rest) : c.isDigit := by
  induction places generalizing rest with
  | zero => cases hc
  | succ places ih =>
    rw [placesOf_succ] at hc
    split at hc
    · cases hc
    · cases List.mem_cons.1 hc with
      | inl hc => exact hc ▸ isDigit_digitChar (div_pow_lt h)
      | inr hc => exact ih (Nat.mod_lt rest (Nat.pow_pos (by omega))) hc

lemma toList_fixed (places units : Nat) :
    (fixed places units).toList =
      (ofNat (units / 10 ^ places)).toList ++
        if placesOf places (units % 10 ^ places) = [] then []
        else '.' :: placesOf places (units % 10 ^ places) := by
  unfold fixed
  simp only [Nat.pow_eq]
  cases placesOf places (units % 10 ^ places) with
  | nil => simp
  | cons digit digits => simp

/-- Numbers with the same text are the same. -/
theorem fixed_injective {places m n : Nat} (h : fixed places m = fixed places n) : m = n := by
  have htexts := congrArg String.toList h
  rw [toList_fixed, toList_fixed] at htexts
  obtain ⟨hwhole, hplaces⟩ := append_inj_of_stop (fun c hc => isDigit_ofNat hc)
    (fun c hc => isDigit_ofNat hc) (by split <;> simp) (by split <;> simp) htexts
  have hpos : 0 < 10 ^ places := Nat.pow_pos (by omega)
  have hremainder : m % 10 ^ places = n % 10 ^ places := by
    apply placesOf_injective (Nat.mod_lt m hpos) (Nat.mod_lt n hpos)
    split at hplaces <;> split at hplaces <;> simp_all
  rw [← Nat.div_add_mod m (10 ^ places), ← Nat.div_add_mod n (10 ^ places), hremainder,
    ofNat_injective (String.toList_inj.1 hwhole)]

lemma fixed_ne_empty (places n : Nat) : fixed places n ≠ "" := by
  intro h
  have htext := congrArg String.toList h
  rw [toList_fixed, toList_ofNat] at htext
  exact Nat.toDigits_ne_nil (List.append_eq_nil_iff.1 htext).1

lemma mem_fixed {places n : Nat} {c : Char} (h : c ∈ (fixed places n).toList) :
    c.isDigit ∨ c = '.' := by
  rw [toList_fixed, List.mem_append] at h
  cases h with
  | inl h => exact .inl (isDigit_ofNat h)
  | inr h =>
    split at h
    · cases h
    · cases List.mem_cons.1 h with
      | inl h => exact .inr h
      | inr h => exact .inl (isDigit_placesOf (Nat.mod_lt n (Nat.pow_pos (by omega))) h)

end TreeDump.Decimal
