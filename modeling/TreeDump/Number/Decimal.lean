/-!
# Decimal text

Whole numbers and numbers with a fixed count of decimal places as text, and the reading of unsigned
decimal text. A number with places is written without trailing zeros, and without the point if
nothing follows it.
-/

namespace TreeDump.Decimal

/-- The digits of a natural number, without leading zeros. -/
def ofNat (n : Nat) : String := String.ofList (Nat.toDigits 10 n)

/-- The digits of an integer after its sign, if that is minus. -/
def ofInt : Int → String
  | .ofNat n => ofNat n
  | .negSucc n => "-" ++ ofNat (n + 1)

/-- The decimal places of `rest / 10 ^ places`, up to the last that is not zero. -/
def placesOf : Nat → Nat → List Char
  | 0, _ => []
  | places + 1, rest =>
    if rest = 0 then []
    else (rest / Nat.pow 10 places).digitChar :: placesOf places (rest % Nat.pow 10 places)

/-- The text of `units / 10 ^ places`. -/
def fixed (places units : Nat) : String :=
  let whole := ofNat (units / Nat.pow 10 places)
  match placesOf places (units % Nat.pow 10 places) with
  | [] => whole
  | digits => whole ++ "." ++ String.ofList digits

/-- The number that one or more digits denote. -/
def readDigits? (digits : List Char) : Option Nat :=
  if digits ≠ [] ∧ digits.all Char.isDigit then some (Nat.ofDigitChars 10 digits 0) else none

/-- The number of an unsigned text: digits, which a plus sign may lead. -/
def read? (text : String) : Option Nat :=
  match text.toList with
  | '+' :: digits => readDigits? digits
  | digits => readDigits? digits

theorem readDigits?_toDigits (n : Nat) : readDigits? (Nat.toDigits 10 n) = some n := by
  have h : (Nat.toDigits 10 n).all Char.isDigit = true :=
    List.all_eq_true.2 fun c hc => Nat.isDigit_of_mem_toDigits (by decide) (by decide) hc
  simp [readDigits?, Nat.toDigits_ne_nil, h, Nat.ofDigitChars_ten_toDigits]

end TreeDump.Decimal
