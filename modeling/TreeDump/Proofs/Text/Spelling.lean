import TreeDump.Proofs.Source.Token
import Mathlib.Tactic.Lemma

/-!
# How literals spell texts

What stands between the quotes of a literal is a sequence of pieces, and each piece denotes one
character: a mark after a backslash, the hexadecimal digits of a code point in braces, or a
character that stands for itself. Quotes and backslashes are never pieces by themselves, and no
piece breaks the line. The main statement is that every text is encoded as pieces that spell it,
whatever characters are hidden.
-/

namespace TreeDump.Literal

open Source.LiteralPlace (hexDigit?)

/-- The marks that may follow a backslash, with the characters that they denote. -/
def marks : List (Char × Char) :=
  [('"', '"'), ('\\', '\\'), ('n', '\n'), ('r', '\r'), ('t', '\t'), ('0', '\x00')]

/-- The number of hexadecimal digits that follow others with a given number. -/
def hexFrom? (value : Nat) : List Char → Option Nat
  | [] => some value
  | c :: rest => (hexDigit? c).bind fun digit => hexFrom? (16 * value + digit) rest

/-- A piece of a literal and the character that it denotes. -/
inductive Piece : List Char → Char → Prop where
  | mark {mark c : Char} (h : (mark, c) ∈ marks) : Piece ['\\', mark] c
  | codePoint {digits : List Char} {c : Char} (hpos : 0 < digits.length)
      (hlength : digits.length ≤ 6) (hvalue : hexFrom? 0 digits = some c.toNat) :
      Piece (['\\', 'u', '{'] ++ digits ++ ['}']) c
  | plain {c : Char} (h : c ∉ ['"', '\\', '\n', '\r']) : Piece [c] c

/-- What stands between the quotes of a literal, and the text that it spells piece by piece. -/
inductive Spells : List Char → List Char → Prop where
  | nil : Spells [] []
  | cons {piece body text : List Char} {c : Char} :
      Piece piece c → Spells body text → Spells (piece ++ body) (c :: text)

/-- The literal of a text in which the characters of a set are written by their code points. -/
def quoteHiding (hidden : Char → Bool) (text : String) : String :=
  "\"" ++ String.ofList (encode hidden text.toList) ++ "\""

lemma toList_quoteHiding (hidden : Char → Bool) (text : String) :
    (quoteHiding hidden text).toList = '"' :: (encode hidden text.toList ++ ['"']) := by
  simp [quoteHiding]

lemma hexFrom?_append (value : Nat) (front back : List Char) :
    hexFrom? value (front ++ back) = (hexFrom? value front).bind (hexFrom? · back) := by
  induction front generalizing value with
  | nil => rfl
  | cons c front ih =>
    rw [List.cons_append, hexFrom?, hexFrom?]
    cases hexDigit? c with
    | none => rfl
    | some digit => exact ih (16 * value + digit)

lemma hexFrom?_digitChar (value : Nat) {digit : Nat} (h : digit < 16) :
    hexFrom? value [digit.digitChar] = some (16 * value + digit) := by
  have hall : ∀ digit < 16, hexDigit? (Nat.digitChar digit) = some digit := by decide
  rw [hexFrom?, hall digit h, Option.bind_some, hexFrom?]

lemma hexFrom?_toDigits (n : Nat) : hexFrom? 0 (Nat.toDigits 16 n) = some n := by
  induction n using Nat.strongRecOn with
  | ind n ih =>
    rw [Nat.toDigits_eq_if (by decide)]
    split
    · next h => rw [hexFrom?_digitChar 0 h, Nat.mul_zero, Nat.zero_add]
    · next h =>
      have hlast : n % 16 < 16 := Nat.mod_lt _ (by decide)
      rw [hexFrom?_append, ih (n / 16) (by omega), Option.bind_some, hexFrom?_digitChar _ hlast,
        Nat.div_add_mod]

lemma toDigits_length_le_six (c : Char) : (Nat.toDigits 16 c.toNat).length ≤ 6 := by
  rw [Nat.length_toDigits_le_iff (by decide) (by decide)]
  have hvalid : c.toNat.isValidChar := c.valid
  unfold Nat.isValidChar at hvalid
  omega

lemma hexDigit?_of_mem {digits : List Char} {value code : Nat}
    (h : hexFrom? value digits = some code) : ∀ c ∈ digits, hexDigit? c ≠ none := by
  induction digits generalizing value with
  | nil => simp
  | cons c digits ih =>
    obtain ⟨digit, hdigit, hrest⟩ := Option.bind_eq_some_iff.1 h
    intro d hd
    rcases List.mem_cons.1 hd with rfl | hd
    · simp [hdigit]
    · exact ih hrest d hd

/-- Only a mark can be a quote, and no piece has a line feed or a carriage return. -/
lemma Piece.cases {piece : List Char} {c : Char} (h : Piece piece c) :
    (∃ mark, piece = ['\\', mark] ∧ mark ≠ '\n' ∧ mark ≠ '\r') ∨
      ∀ d ∈ piece, d ≠ '"' ∧ d ≠ '\n' ∧ d ≠ '\r' := by
  cases h with
  | @mark mark _ hmark =>
    left
    have hall : ∀ escape ∈ marks, escape.1 ≠ '\n' ∧ escape.1 ≠ '\r' := by decide
    exact ⟨mark, rfl, hall _ hmark⟩
  | @codePoint digits _ hpos hlength hvalue =>
    right
    have hdigit : ∀ d ∈ digits, d ≠ '"' ∧ d ≠ '\n' ∧ d ≠ '\r' := by
      intro d hd
      have hd := hexDigit?_of_mem hvalue d hd
      refine ⟨?_, ?_, ?_⟩ <;> rintro rfl <;> exact hd (by decide)
    simp only [List.forall_mem_append, List.forall_mem_cons, List.not_mem_nil, false_imp_iff,
      implies_true, and_true]
    exact ⟨⟨by decide, hdigit⟩, by decide⟩
  | plain hplain =>
    right
    simp only [List.mem_cons, List.not_mem_nil, or_false, not_or] at hplain
    rw [List.forall_mem_singleton]
    exact ⟨hplain.1, hplain.2.2⟩

lemma mem_marks_of_escape? {c mark : Char} (h : escape? c = some mark) : (mark, c) ∈ marks := by
  unfold escape? at h
  split at h <;> cases h <;> decide

lemma plain_of_escape?_eq_none {c : Char} (h : escape? c = none) :
    c ∉ ['"', '\\', '\n', '\r'] := by
  simp only [List.mem_cons, List.not_mem_nil, or_false, not_or]
  refine ⟨?_, ?_, ?_, ?_⟩ <;> rintro rfl <;> cases h

/-- Whether a character is hidden or not, it is encoded as a piece that denotes it. -/
lemma piece_encodeChar (hidden : Char → Bool) (c : Char) : Piece (encodeChar hidden c) c := by
  unfold encodeChar
  split
  · next mark h => exact .mark (mem_marks_of_escape? h)
  · next h =>
    split
    · exact .codePoint Nat.length_toDigits_pos (toDigits_length_le_six c)
        (hexFrom?_toDigits c.toNat)
    · exact .plain (plain_of_escape?_eq_none h)

/-- Every text is encoded as a body that spells it. -/
theorem spells_encode (hidden : Char → Bool) (text : List Char) :
    Spells (encode hidden text) text := by
  induction text with
  | nil => exact .nil
  | cons c text ih =>
    have hencode : encode hidden (c :: text) = encodeChar hidden c ++ encode hidden text :=
      List.flatMap_cons
    rw [hencode]
    exact .cons (piece_encodeChar hidden c) ih

end TreeDump.Literal
