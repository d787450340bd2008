import TreeDump.Proofs.Text.Spelling
import TreeDump.Number.Decimal

/-!
# Scanning pieces of source text

A source text is put together from pieces, and it is scanned piece by piece: `Scanned place text
tokens after` says that a piece which begins at one place completes some tokens and ends at another
place. Literals and numbers are pieces of their own, and they give back what they were made from.
-/

namespace TreeDump.Source

open Literal (quote)

namespace Place

lemma scan_nil (place : Place) : place.scan [] = some ([], place) := rfl

lemma scan_cons {place after : Place} {c : Char} {rest : List Char} {tokens : List Token}
    (h : place.next c = some (tokens, after)) :
    place.scan (c :: rest) = (after.scan rest).map fun r => (tokens ++ r.1, r.2) := by
  rw [scan, h, Option.bind_some]

lemma scan_append (place : Place) (front back : List Char) :
    place.scan (front ++ back) =
      (place.scan front).bind fun r => (r.2.scan back).map fun s => (r.1 ++ s.1, s.2) := by
  induction front generalizing place with
  | nil =>
    rw [List.nil_append, scan_nil, Option.bind_some]
    cases place.scan back <;> rfl
  | cons c front ih =>
    rw [List.cons_append]
    cases h : place.next c with
    | none =>
      rw [scan, scan, h, Option.bind_none, Option.bind_none, Option.bind_none]
    | some completed =>
      obtain ⟨tokens, after⟩ := completed
      rw [scan_cons h, scan_cons h, ih]
      cases hf : after.scan front with
      | none => rfl
      | some r =>
        simp only [Option.map_some, Option.bind_some, Option.map_map]
        cases r.2.scan back with
        | none => rfl
        | some s => simp only [Option.map_some, Function.comp_apply, List.append_assoc]

end Place

/-- A piece of text takes the reader from one place to another and completes tokens on the way. -/
def Scanned (place : Place) (text : String) (tokens : List Token) (after : Place) : Prop :=
  place.scan text.toList = some (tokens, after)

instance (place : Place) (text : String) (tokens : List Token) (after : Place) :
    Decidable (Scanned place text tokens after) :=
  inferInstanceAs (Decidable (place.scan text.toList = some (tokens, after)))

namespace Scanned

lemma append {place middle after : Place} {front back : String} {first second : List Token}
    (hf : Scanned place front first middle) (hb : Scanned middle back second after) :
    Scanned place (front ++ back) (first ++ second) after := by
  unfold Scanned at *
  rw [String.toList_append, Place.scan_append, hf, Option.bind_some, hb]
  rfl

end Scanned

section Literals

open Literal (Piece Spells hexFrom? quoteHiding)

lemma scan_hexDigits {digits : List Char} {value code : Nat} (h : hexFrom? value digits = some code)
    (count : Nat) (written : List Char) :
    (Place.literal (.code value count) written).scan digits =
      some ([], .literal (.code code (count + digits.length)) written) := by
  induction digits generalizing value count with
  | nil =>
    obtain rfl := Option.some.inj h
    rfl
  | cons c digits ih =>
    obtain ⟨digit, hdigit, hrest⟩ := Option.bind_eq_some_iff.1 h
    have hclose : c ≠ '}' := by
      rintro rfl
      cases hdigit
    have hnext : (Place.literal (.code value count) written).next c =
        some ([], .literal (.code (16 * value + digit) (count + 1)) written) := by
      simp [Place.next, LiteralPlace.next, hdigit, hclose]
    rw [Place.scan_cons hnext, ih hrest, List.length_cons, Nat.add_right_comm, Nat.add_assoc]
    rfl

lemma scan_piece {piece : List Char} {c : Char} (h : Piece piece c) (written : List Char) :
    (Place.literal .plain written).scan piece = some ([], .literal .plain (written ++ [c])) := by
  cases h with
  | @mark mark _ hmark =>
    have hall : ∀ escape ∈ Literal.marks,
        LiteralPlace.escaped? escape.1 = some escape.2 ∧ escape.1 ≠ 'u' := by
      decide
    obtain ⟨hdenoted, hcode⟩ := hall _ hmark
    simp only at hdenoted hcode
    simp [Place.scan, Place.next, LiteralPlace.next, hdenoted, hcode]
  | @codePoint digits _ hpos hlength hvalue =>
    have hopen : (Place.literal .plain written).scan ['\\', 'u', '{'] =
        some ([], .literal (.code 0 0) written) := by
      simp [Place.scan, Place.next, LiteralPlace.next]
    have hclose : (Place.literal (.code c.toNat digits.length) written).scan ['}'] =
        some ([], .literal .plain (written ++ [c])) := by
      have hvalid : c.toNat.isValidChar := c.valid
      simp [Place.scan, Place.next, LiteralPlace.next, hpos, hlength, hvalid, Char.ofNat_toNat]
    rw [Place.scan_append, Place.scan_append, hopen, Option.bind_some, scan_hexDigits hvalue,
      Nat.zero_add]
    simp [hclose]
  | plain hplain =>
    simp only [List.mem_cons, List.not_mem_nil, or_false, not_or] at hplain
    simp [Place.scan, Place.next, LiteralPlace.next, hplain]

lemma scan_body {body text : List Char} (h : Spells body text) (written : List Char) :
    (Place.literal .plain written).scan body = some ([], .literal .plain (written ++ text)) := by
  induction h generalizing written with
  | nil => rw [List.append_nil]; rfl
  | cons hpiece _ ih =>
    rw [Place.scan_append, scan_piece hpiece, Option.bind_some, ih]
    simp

lemma scan_literal {body : List Char} {text : String} (h : Spells body text.toList) :
    Place.gap.scan ('"' :: (body ++ ['"'])) = some ([.literal text], .gap) := by
  have hopen : Place.gap.next '"' = some ([], .literal .plain []) := rfl
  have hclose : (Place.literal .plain text.toList).scan ['"'] = some ([.literal text], .gap) := by
    simp [Place.scan, Place.next, String.ofList_toList]
  rw [Place.scan_cons hopen, Place.scan_append, scan_body h, List.nil_append, Option.bind_some,
    hclose]
  rfl

/-- Without a token the reader stays within a literal. -/
lemma literal_of_scan {place : LiteralPlace} {written text : List Char} {after : Place}
    (h : (Place.literal place written).scan text = some ([], after)) :
    ∃ place' written', after = .literal place' written' := by
  induction text generalizing place written with
  | nil =>
    obtain ⟨-, rfl⟩ := Prod.mk.inj (Option.some.inj h)
    exact ⟨place, written, rfl⟩
  | cons c text ih =>
    obtain ⟨⟨tokens, middle⟩, hnext, hrest⟩ := Option.bind_eq_some_iff.1 h
    obtain ⟨⟨others, last⟩, hscan, hboth⟩ := Option.map_eq_some_iff.1 hrest
    obtain ⟨htokens, rfl⟩ := Prod.mk.inj hboth
    obtain ⟨rfl, rfl⟩ := List.append_eq_nil_iff.1 htokens
    rw [Place.next] at hnext
    split at hnext
    · cases hnext
    · obtain ⟨after, -, hafter⟩ := Option.map_eq_some_iff.1 hnext
      obtain ⟨-, rfl⟩ := Prod.mk.inj hafter
      exact ih hscan

/-- A quote that does not end a literal comes after a backslash that escapes it. -/
lemma escape_of_next_quote {place : LiteralPlace} {written : List Char} {after : Place}
    (h : (Place.literal place written).next '"' = some ([], after)) : place = .escape := by
  cases place with
  | plain => simp [Place.next] at h
  | escape => rfl
  | brace => simp [Place.next, LiteralPlace.next] at h
  | code value digits =>
    have hdigit : LiteralPlace.hexDigit? '"' = none := by decide
    simp [Place.next, LiteralPlace.next, hdigit] at h

/-- In a body all quotes are escaped. -/
lemma scan_before_quote {body text : List Char} (h : Spells body text) {front back : List Char}
    (hbody : body = front ++ '"' :: back) :
    ∃ written, (Place.literal .plain []).scan front = some ([], .literal .escape written) := by
  have hscan := scan_body h []
  rw [hbody, Place.scan_append] at hscan
  obtain ⟨⟨tokens, middle⟩, hfront, hrest⟩ := Option.bind_eq_some_iff.1 hscan
  obtain ⟨⟨others, last⟩, hback, hboth⟩ := Option.map_eq_some_iff.1 hrest
  obtain ⟨rfl, rfl⟩ := List.append_eq_nil_iff.1 (Prod.mk.inj hboth).1
  obtain ⟨place, written, rfl⟩ := literal_of_scan hfront
  obtain ⟨⟨completed, after⟩, hnext, hlast⟩ := Option.bind_eq_some_iff.1 hback
  obtain ⟨⟨more, final⟩, -, htokens⟩ := Option.map_eq_some_iff.1 hlast
  obtain ⟨rfl, -⟩ := List.append_eq_nil_iff.1 (Prod.mk.inj htokens).1
  obtain rfl := escape_of_next_quote hnext
  exact ⟨written, hfront⟩

/-- Whatever characters are hidden, a quoted text is one literal that denotes the text. -/
lemma scanned_quoteHiding (hidden : Char → Bool) (text : String) :
    Scanned .gap (quoteHiding hidden text) [.literal text] .gap := by
  unfold Scanned
  rw [Literal.toList_quoteHiding]
  exact scan_literal (Literal.spells_encode hidden text.toList)

lemma scanned_quote (text : String) : Scanned .gap (quote text) [.literal text] .gap :=
  scanned_quoteHiding isHidden text

end Literals

lemma next_digit (value : Nat) {digit : Nat} (h : digit < 10) :
    Place.gap.next digit.digitChar = some ([], .number digit) ∧
      (Place.number value).next digit.digitChar = some ([], .number (10 * value + digit)) := by
  have all : ∀ digit < 10, Place.gap.next (Nat.digitChar digit) = some ([], .number digit) ∧
      (Nat.digitChar digit).isDigit ∧ (Nat.digitChar digit).toNat - '0'.toNat = digit := by
    decide
  obtain ⟨hfirst, hdigit, hvalue⟩ := all digit h
  refine ⟨hfirst, ?_⟩
  rw [Place.next, if_pos hdigit, hvalue]

lemma scanned_decimal (n : Nat) : Scanned .gap (Decimal.ofNat n) [] (.number n) := by
  unfold Scanned Decimal.ofNat
  rw [String.toList_ofList]
  induction n using Nat.strongRecOn with
  | ind n ih =>
    rw [Nat.toDigits_eq_if (by decide)]
    split
    · next h =>
      rw [Place.scan_cons (next_digit 0 h).1, Place.scan_nil]
      rfl
    · next h =>
      have hlast : n % 10 < 10 := Nat.mod_lt _ (by decide)
      rw [Place.scan_append, ih (n / 10) (by omega), Option.bind_some,
        Place.scan_cons (next_digit _ hlast).2, Place.scan_nil]
      have hsum : 10 * (n / 10) + n % 10 = n := Nat.div_add_mod n 10
      simp [hsum]

end TreeDump.Source
