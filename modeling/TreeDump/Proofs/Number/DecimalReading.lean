import TreeDump.Proofs.Number.DecimalText
import Mathlib.Data.List.Induction

/-!
# What decimal texts denote

A text denotes a number if it is one or more digits, which a plus sign may lead. Leading zeros do
not count. The main statement is that the reader takes these texts, at their numbers, and no others.
So the texts of a number are its digits behind any zeros, with or without the sign.
-/

namespace TreeDump.Decimal

/-- The number that a text of digits denotes, with or without a plus sign. -/
def Denotes (text : String) (n : Nat) : Prop :=
  ∃ digits : List Char, (text.toList = digits ∨ text.toList = '+' :: digits) ∧ digits ≠ [] ∧
    (∀ c ∈ digits, c.isDigit) ∧ n = Nat.ofDigitChars 10 digits 0

lemma readDigits?_eq_some_iff {digits : List Char} {n : Nat} :
    readDigits? digits = some n ↔
      digits ≠ [] ∧ (∀ c ∈ digits, c.isDigit) ∧ n = Nat.ofDigitChars 10 digits 0 := by
  unfold readDigits?
  split
  · next h =>
    obtain ⟨hne, hdigits⟩ := h
    constructor
    · intro hvalue
      exact ⟨hne, List.all_eq_true.1 hdigits, (Option.some.inj hvalue).symm⟩
    · rintro ⟨-, -, rfl⟩
      rfl
  · next h =>
    constructor
    · intro hnone
      cases hnone
    · rintro ⟨hne, hdigits, -⟩
      exact absurd ⟨hne, List.all_eq_true.2 hdigits⟩ h

theorem read?_eq_some_iff {text : String} {n : Nat} : read? text = some n ↔ Denotes text n := by
  unfold read? Denotes
  split
  · next digits htext =>
    rw [readDigits?_eq_some_iff, htext]
    constructor
    · intro h
      exact ⟨digits, .inr rfl, h⟩
    · rintro ⟨digits', heq | heq, hne, hdigits, hn⟩
      · subst heq
        exact absurd (hdigits '+' List.mem_cons_self) (by decide)
      · cases heq
        exact ⟨hne, hdigits, hn⟩
  · next hplus =>
    rw [readDigits?_eq_some_iff]
    constructor
    · intro h
      exact ⟨text.toList, .inl rfl, h⟩
    · rintro ⟨digits, heq | heq, h⟩
      · rw [heq]
        exact h
      · exact absurd heq (hplus digits)

/-- Digits are zeros and then the digits of the number that they denote. -/
lemma exists_zeros_toDigits {digits : List Char} (hne : digits ≠ [])
    (h : ∀ c ∈ digits, c.isDigit) :
    ∃ zeros, digits =
      List.replicate zeros '0' ++ Nat.toDigits 10 (Nat.ofDigitChars 10 digits 0) := by
  induction digits using List.reverseRecOn with
  | nil => exact absurd rfl hne
  | append_singleton digits c ih =>
    have hc : c.isDigit := h c (by simp)
    have hlt := sub_zero_lt_ten hc
    have hlast : Nat.toDigits 10 (c.toNat - '0'.toNat) = [c] := by
      rw [Nat.toDigits_of_lt_base hlt, digitChar_sub_zero hc]
    rw [ofDigitChars_concat]
    by_cases hempty : digits = []
    · subst hempty
      rw [Nat.ofDigitChars_nil, Nat.mul_zero, Nat.zero_add, hlast]
      exact ⟨0, rfl⟩
    · obtain ⟨zeros, hzeros⟩ := ih hempty fun d hd => h d (by simp [hd])
      rcases Nat.eq_zero_or_pos (Nat.ofDigitChars 10 digits 0) with hzero | hpos
      · rw [hzero, Nat.toDigits_zero] at hzeros
        refine ⟨zeros + 1, ?_⟩
        rw [hzero, Nat.mul_zero, Nat.zero_add, hlast, hzeros, List.replicate_succ']
      · refine ⟨zeros, ?_⟩
        rw [← Nat.toDigits_append_toDigits (by decide) hpos hlt, hlast, ← List.append_assoc,
          ← hzeros]

/-- The texts of a number are its digits behind any zeros, with or without a plus sign. -/
theorem denotes_iff_zeros {text : String} {n : Nat} :
    Denotes text n ↔ ∃ sign ∈ ["", "+"], ∃ zeros,
      text = sign ++ String.ofList (List.replicate zeros '0') ++ ofNat n := by
  have hsigned : ∀ (sign : String) (zeros : Nat),
      (sign ++ String.ofList (List.replicate zeros '0') ++ ofNat n).toList =
        sign.toList ++ (List.replicate zeros '0' ++ Nat.toDigits 10 n) := by
    intro sign zeros
    rw [String.toList_append, String.toList_append, String.toList_ofList, toList_ofNat,
      List.append_assoc]
  constructor
  · rintro ⟨digits, htext, hne, hdigits, rfl⟩
    obtain ⟨zeros, hzeros⟩ := exists_zeros_toDigits hne hdigits
    rcases htext with htext | htext
    · refine ⟨"", by simp, zeros, String.toList_injective ?_⟩
      rw [hsigned, ← hzeros]
      exact htext
    · refine ⟨"+", by simp, zeros, String.toList_injective ?_⟩
      rw [hsigned, ← hzeros]
      exact htext
  · rintro ⟨sign, hsign, zeros, rfl⟩
    refine ⟨List.replicate zeros '0' ++ Nat.toDigits 10 n, ?_, ?_, ?_, ?_⟩
    · rw [hsigned]
      simp only [List.mem_cons, List.not_mem_nil, or_false] at hsign
      rcases hsign with rfl | rfl
      · exact .inl rfl
      · exact .inr rfl
    · exact List.append_ne_nil_of_right_ne_nil _ Nat.toDigits_ne_nil
    · intro c hc
      rcases List.mem_append.1 hc with hzero | hdigit
      · rw [List.eq_of_mem_replicate hzero]
        rfl
      · exact Nat.isDigit_of_mem_toDigits (by decide) (by decide) hdigit
    · rw [Nat.ofDigitChars_append, Nat.ofDigitChars_replicate_zero, Nat.mul_zero,
        Nat.ofDigitChars_ten_toDigits]

end TreeDump.Decimal
