import TreeDump.Proofs.Source.Scanning
import TreeDump.Proofs.Text.OneLine

/-!
# Quoted texts

Whatever a text contains, its literal stands on one line, and inside the literal a quote comes only
after a backslash. Texts with the same literal are equal, since the literal can be read back. The
main statement is about all literals at once that a text can have, for any choice of the characters
that are written by their code points.
-/

namespace TreeDump

/-- Every quote comes right after a backslash. -/
def Guarded (text : List Char) : Prop :=
  ∀ front back, text = front ++ '"' :: back → front.getLast? = some '\\'

namespace Guarded

lemma of_not_mem {text : List Char} (h : '"' ∉ text) : Guarded text := by
  rintro front back rfl
  exact absurd (by simp) h

lemma mark (c : Char) : Guarded ['\\', c] := by
  rintro (_ | ⟨first, _ | ⟨second, front⟩⟩) back heq
  · exact absurd (List.cons.inj heq).1 (by decide)
  · rw [(List.cons.inj heq).1]
    rfl
  · simp at heq

lemma append {front back : List Char} (hfront : Guarded front) (hback : Guarded back) :
    Guarded (front ++ back) := by
  intro before after heq
  obtain ⟨middle, rfl, hsplit⟩ | ⟨middle, rfl, hsplit⟩ := List.append_eq_append_iff.1 heq
  · rw [List.getLast?_append, hback middle after hsplit]
    rfl
  · cases middle with
    | nil => exact absurd (hback [] after hsplit.symm) (by simp)
    | cons c middle =>
      obtain ⟨rfl, -⟩ := List.cons.inj hsplit
      exact hfront before middle rfl

end Guarded

namespace Literal

lemma Piece.guarded {piece : List Char} {c : Char} (h : Piece piece c) : Guarded piece := by
  obtain ⟨mark, rfl, -⟩ | hplain := h.cases
  · exact .mark mark
  · exact .of_not_mem fun hquote => (hplain _ hquote).1 rfl

lemma Piece.notMem_breaks {piece : List Char} {c : Char} (h : Piece piece c) :
    '\n' ∉ piece ∧ '\r' ∉ piece := by
  obtain ⟨mark, rfl, hfeed, hreturn⟩ | hplain := h.cases
  · simp [hfeed.symm, hreturn.symm]
  · exact ⟨fun hbreak => (hplain _ hbreak).2.1 rfl, fun hbreak => (hplain _ hbreak).2.2 rfl⟩

namespace Spells

variable {body text : List Char}

lemma guarded (h : Spells body text) : Guarded body := by
  induction h with
  | nil => exact .of_not_mem List.not_mem_nil
  | cons hpiece _ ih => exact hpiece.guarded.append ih

lemma notMem_breaks (h : Spells body text) : '\n' ∉ body ∧ '\r' ∉ body := by
  induction h with
  | nil => simp
  | cons hpiece _ ih =>
    obtain ⟨hfeed, hreturn⟩ := hpiece.notMem_breaks
    simp [hfeed, hreturn, ih]

/-- A body spells one text only, since reading it gives that text. -/
lemma unique {other : List Char} (h : Spells body text) (hother : Spells body other) :
    other = text := by
  have hscan := Source.scan_body h []
  rw [Source.scan_body hother []] at hscan
  simpa using hscan

end Spells

variable (hidden : Char → Bool) (text : List Char)

lemma guarded_encode : Guarded (encode hidden text) := (spells_encode hidden text).guarded

lemma newline_notMem_encode : '\n' ∉ encode hidden text := (spells_encode hidden text).notMem_breaks.1

lemma encode_injective : Function.Injective (encode hidden) := by
  intro first second h
  have hsecond := spells_encode hidden second
  rw [← h] at hsecond
  exact hsecond.unique (spells_encode hidden first)

end Literal

open Literal
open Source (Place)

lemma toList_quote (text : String) :
    (quote text).toList = '"' :: (encode isHidden text.toList ++ ['"']) :=
  toList_quoteHiding isHidden text

lemma OneLine.quote (text : String) : OneLine (quote text) := by
  unfold OneLine
  rw [toList_quote]
  simp [newline_notMem_encode]

/-- Whatever characters are hidden, the literal of a text is a body between two quotes. The body
spells the text and no other, it does not break the line, and a quote in it comes only where the
reader stands behind a backslash that escapes it. So the reader takes the literal from the source in
front of anything else, it gives the text back, and different texts never have the same literal. -/
theorem Literal.quoteHiding_spells :
    (∀ text, quote text = quoteHiding isHidden text) ∧
      ∀ (hidden : Char → Bool) (text : String), ∃ body,
        (quoteHiding hidden text).toList = '"' :: (body ++ ['"']) ∧
        Spells body text.toList ∧ (∀ other, Spells body other → other = text.toList) ∧
        '\n' ∉ body ∧ '\r' ∉ body ∧
        (∀ front back, body = front ++ '"' :: back → ∃ written,
          (Place.literal .plain []).scan front = some ([], .literal .escape written)) ∧
        (∀ rest, Place.gap.scan ((quoteHiding hidden text).toList ++ rest) =
          (Place.gap.scan rest).map fun after => (.literal text :: after.1, after.2)) ∧
        ∀ hidden' other, quoteHiding hidden' other = quoteHiding hidden text → other = text := by
  refine ⟨fun _ => rfl, fun hidden text => ?_⟩
  have hspells := spells_encode hidden text.toList
  have hscan : Place.gap.scan (quoteHiding hidden text).toList = some ([.literal text], .gap) :=
    Source.scanned_quoteHiding hidden text
  refine ⟨encode hidden text.toList, toList_quoteHiding hidden text, hspells,
    fun other hother => hspells.unique hother, hspells.notMem_breaks.1, hspells.notMem_breaks.2,
    fun front back hbody => Source.scan_before_quote hspells hbody, fun rest => ?_,
    fun hidden' other hsame => ?_⟩
  · rw [Place.scan_append, hscan]
    rfl
  · have hother : Place.gap.scan (quoteHiding hidden' other).toList =
        some ([.literal other], .gap) := Source.scanned_quoteHiding hidden' other
    rw [hsame, hscan] at hother
    simpa using hother.symm

example : quote "a\n\"\u0301" = "\"a\\n\\\"\\u\x7b301\x7d\"" := by decide +kernel

end TreeDump
