import TreeDump.Proofs.Dump.Resolving
import TreeDump.Proofs.Number.WordReading

/-!
# Keys of double constants

The key of a double constant is the decimal text of its bits. The main statement says which keys are
taken, at which doubles, and what becomes of all others.
-/

namespace TreeDump.Constant

lemma doubleOfKey_eq_ok_iff_readWord? {key : String} {value : Binary64} :
    doubleOfKey key = .ok value ↔ Decimal.readWord? key = some value.bits := by
  rw [doubleOfKey_eq_ok_iff, ← Decimal.read?_eq_some_iff, Decimal.readWord?_eq,
    Option.bind_eq_some_iff]
  simp only [Decimal.word?_eq_some_iff, exists_eq_right]

lemma doubleOfKey_eq_error_iff {key : String} :
    doubleOfKey key = .error (.formatMismatch key .keyNotBits) ↔
      ∀ n, Decimal.Denotes key n → 2 ^ 64 ≤ n := by
  constructor
  · intro herror n hn
    by_contra hsmall
    have hbits : (UInt64.ofNat n).toNat = n := UInt64.toNat_ofNat_of_lt' (Nat.not_le.1 hsmall)
    have hok : doubleOfKey key = .ok ⟨.ofNat n⟩ := by
      rw [doubleOfKey_eq_ok_iff, hbits]
      exact hn
    rw [herror] at hok
    cases hok
  · intro hlarge
    cases hkey : doubleOfKey key with
    | ok value =>
      have hbits := hlarge _ (doubleOfKey_eq_ok_iff.1 hkey)
      exact absurd value.bits.toNat_lt_size (Nat.not_lt.2 hbits)
    | error error => rw [doubleOfKey_error hkey]

/-- A key is taken exactly if it is one or more digits, which a plus sign may lead, and their number
is a word; then it stands for the double with these bits. So the keys of a double are the digits of
its bits behind any zeros, with or without the sign, and no double is without a key. A loop that
holds one word and looks out for overflow at each digit takes the same keys. All other keys are
refused, and the complaint names the key. -/
theorem doubleOfKey_decimal (key : String) :
    (∀ value, doubleOfKey key = .ok value ↔ Decimal.Denotes key value.bits.toNat) ∧
      (∀ value, doubleOfKey key = .ok value ↔ ∃ sign ∈ ["", "+"], ∃ zeros,
        key = sign ++ String.ofList (List.replicate zeros '0') ++
          Decimal.ofNat value.bits.toNat) ∧
      (∀ value, doubleOfKey key = .ok value ↔ Decimal.readWord? key = some value.bits) ∧
      (doubleOfKey key = .error (.formatMismatch key .keyNotBits) ↔
        ∀ n, Decimal.Denotes key n → 2 ^ 64 ≤ n) ∧
      (∀ error, doubleOfKey key = .error error → error = .formatMismatch key .keyNotBits) ∧
      ∀ bits : UInt64, doubleOfKey (Decimal.ofNat bits.toNat) = .ok ⟨bits⟩ := by
  have hzeros : ∀ (key : String) (value : Binary64), doubleOfKey key = .ok value ↔
      ∃ sign ∈ ["", "+"], ∃ zeros,
        key = sign ++ String.ofList (List.replicate zeros '0') ++
          Decimal.ofNat value.bits.toNat :=
    fun key value => doubleOfKey_eq_ok_iff.trans Decimal.denotes_iff_zeros
  refine ⟨fun _ => doubleOfKey_eq_ok_iff, hzeros key, fun _ => doubleOfKey_eq_ok_iff_readWord?,
    doubleOfKey_eq_error_iff, fun _ => doubleOfKey_error, fun bits => ?_⟩
  exact (hzeros _ ⟨bits⟩).2 ⟨"", by simp, 0, by simp⟩

example : doubleOfKey "0018446744073709551615" = .ok ⟨0xFFFFFFFFFFFFFFFF⟩ := by decide +kernel

example : doubleOfKey "18446744073709551616" =
    .error (.formatMismatch "18446744073709551616" .keyNotBits) := by decide +kernel

end TreeDump.Constant
