import TreeDump.Proofs.Number.DecimalReading

/-!
# Reading numbers within a word

Digits can be read into a word of 64 bits one at a time, if each step sees from the words at hand
whether the number still fits. The main statement is that such a loop, which never holds a larger
number, takes exactly the texts whose number is a word, however many digits they have.
-/

namespace TreeDump.Decimal

/-- The word with a number, if it fits. -/
def word? (n : Nat) : Option UInt64 := if n < UInt64.size then some (.ofNat n) else none

/-- Ten times a word and another word, unless the product or the sum leaves the words. The product
does if the first word is more than a tenth of the greatest one, and the sum if it comes out less
than what was added. -/
def appendDigit? (word digit : UInt64) : Option UInt64 :=
  if 18446744073709551615 / 10 < word then none
  else if word * 10 + digit < digit then none
  else some (word * 10 + digit)

/-- The word with digits behind it. -/
def appendDigits? (word : UInt64) : List Char → Option UInt64
  | [] => some word
  | c :: rest =>
    if c.isDigit then
      (appendDigit? word (.ofNat (c.toNat - '0'.toNat))).bind (appendDigits? · rest)
    else none

def readWordDigits? (digits : List Char) : Option UInt64 :=
  if digits = [] then none else appendDigits? 0 digits

/-- The word of an unsigned text: digits, which a plus sign may lead. -/
def readWord? (text : String) : Option UInt64 :=
  if text.toList.head? = some '+' then readWordDigits? text.toList.tail
  else readWordDigits? text.toList

lemma word?_eq_some_iff {n : Nat} {word : UInt64} : word? n = some word ↔ n = word.toNat := by
  unfold word?
  split
  · next h =>
    constructor
    · intro hword
      rw [← Option.some.inj hword, UInt64.toNat_ofNat_of_lt' h]
    · rintro rfl
      rw [UInt64.ofNat_toNat]
  · next h =>
    constructor
    · intro hnone
      cases hnone
    · rintro rfl
      exact absurd word.toNat_lt_size h

lemma word?_toNat (word : UInt64) : word? word.toNat = some word := word?_eq_some_iff.2 rfl

lemma word?_eq_none {n : Nat} (h : UInt64.size ≤ n) : word? n = none := if_neg (Nat.not_lt.2 h)

/-- The checks of a step are exact. -/
lemma appendDigit?_eq (word digit : UInt64) :
    appendDigit? word digit = word? (10 * word.toNat + digit.toNat) := by
  have hsize : UInt64.size = 18446744073709551616 := rfl
  have htenth : (18446744073709551615 / 10 : UInt64).toNat = 1844674407370955161 := rfl
  have hten : (10 : UInt64).toNat = 10 := rfl
  have hdigit := digit.toNat_lt_size
  unfold appendDigit?
  simp only [UInt64.lt_iff_toNat_lt, htenth]
  split
  · next hlarge => rw [word?_eq_none (by omega)]
  · next hsmall =>
    have hsum : (word * 10 + digit).toNat =
        (10 * word.toNat + digit.toNat) % 18446744073709551616 := by
      rw [UInt64.toNat_add, UInt64.toNat_mul, hten]
      omega
    rw [hsum]
    split
    · next hwrapped => rw [word?_eq_none (by omega)]
    · next hexact =>
      symm
      rw [word?_eq_some_iff, hsum]
      omega

lemma le_ofDigitChars (digits : List Char) (n : Nat) : n ≤ Nat.ofDigitChars 10 digits n := by
  have hpos : 0 < 10 ^ digits.length := Nat.pow_pos (by decide)
  rw [Nat.ofDigitChars_eq_ofDigitChars_zero]
  exact Nat.le_trans (Nat.le_mul_of_pos_left n hpos) (Nat.le_add_right _ _)

/-- A loop over digits ends with their number behind the word, if that number fits. -/
lemma appendDigits?_eq (word : UInt64) (digits : List Char) :
    appendDigits? word digits =
      if digits.all Char.isDigit then word? (Nat.ofDigitChars 10 digits word.toNat) else none := by
  induction digits generalizing word with
  | nil => exact (word?_toNat word).symm
  | cons c digits ih =>
    rw [appendDigits?, List.all_cons]
    split
    · next hc =>
      have hlt := sub_zero_lt_ten hc
      have hdigit : (UInt64.ofNat (c.toNat - '0'.toNat)).toNat = c.toNat - '0'.toNat :=
        UInt64.toNat_ofNat_of_lt' (Nat.lt_trans hlt (by decide))
      rw [appendDigit?_eq, hdigit, Nat.ofDigitChars_cons, hc, Bool.true_and]
      cases hnext : word? (10 * word.toNat + (c.toNat - '0'.toNat)) with
      | some next =>
        rw [word?_eq_some_iff.1 hnext, Option.bind_some, ih]
      | none =>
        have hlarge : UInt64.size ≤ 10 * word.toNat + (c.toNat - '0'.toNat) := by
          by_contra hsmall
          rw [word?, if_pos (Nat.not_le.1 hsmall)] at hnext
          cases hnext
        rw [word?_eq_none (Nat.le_trans hlarge (le_ofDigitChars digits _)), ite_self]
        rfl
    · next hc => simp [hc]

lemma readWordDigits?_eq (digits : List Char) :
    readWordDigits? digits = (readDigits? digits).bind word? := by
  unfold readWordDigits? readDigits?
  rw [appendDigits?_eq]
  by_cases hempty : digits = []
  · simp [hempty]
  · by_cases hdigits : digits.all Char.isDigit
    · rw [if_neg hempty, if_pos hdigits, if_pos ⟨hempty, hdigits⟩]
      rfl
    · rw [if_neg hempty, if_neg hdigits, if_neg fun h => hdigits h.2]
      rfl

/-- Within a word the same texts are read as without bound, up to those whose number is no word. -/
theorem readWord?_eq (text : String) : readWord? text = (read? text).bind word? := by
  unfold readWord? read?
  split
  · next hplus =>
    obtain ⟨digits, htext⟩ := List.head?_eq_some_iff.1 hplus
    rw [htext]
    exact readWordDigits?_eq digits
  · next hplus =>
    split
    · next digits htext => exact absurd (by rw [htext]; rfl) hplus
    · exact readWordDigits?_eq text.toList

end TreeDump.Decimal
