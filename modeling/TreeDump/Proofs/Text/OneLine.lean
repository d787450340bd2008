import TreeDump.Proofs.Number.DecimalText
import Mathlib.Tactic.Lemma

/-!
# Texts on one line

A text is on one line if there is no line feed in it. Texts that are put together from such texts
are on one line too.
-/

namespace TreeDump

def OneLine (text : String) : Prop := '\n' ∉ text.toList

instance (text : String) : Decidable (OneLine text) :=
  inferInstanceAs (Decidable ('\n' ∉ text.toList))

@[simp] lemma oneLine_append {front back : String} :
    OneLine (front ++ back) ↔ OneLine front ∧ OneLine back := by
  simp [OneLine]

namespace OneLine

lemma append {front back : String} (hfront : OneLine front) (hback : OneLine back) :
    OneLine (front ++ back) := oneLine_append.2 ⟨hfront, hback⟩

lemma of_isDigit {text : String} (h : ∀ c ∈ text.toList, c.isDigit ∨ c = '-') : OneLine text :=
  fun hnewline => absurd (h _ hnewline) (by decide)

lemma ofNat (n : Nat) : OneLine (Decimal.ofNat n) :=
  of_isDigit fun _ h => .inl (Decimal.isDigit_ofNat h)

end OneLine

end TreeDump
