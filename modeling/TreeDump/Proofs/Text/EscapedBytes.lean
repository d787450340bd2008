import TreeDump.Text.StringBytes
import Mathlib.Data.Bool.AllAny
import Mathlib.Tactic.Lemma

/-!
# Bodies of C string literals

A body is a sequence of escape sequences and of bytes that need none. Each byte string has exactly
one body, the one that it is encoded as, and each body can be decoded again. A byte is escaped if
right before it stands a backslash that is not escaped itself. In a body the three quoting marks
come only escaped, so the first quote that is not escaped is the one after the body.
-/

namespace TreeDump.StringBytes

def backslash : UInt8 := 0x5C

def quote : UInt8 := 0x22

/-- The escape sequences by what follows the backslash, with the bytes that they stand for. -/
def escapes : List (UInt8 × UInt8) :=
  [('\'', 0x27), ('"', 0x22), ('?', 0x3F), ('\\', 0x5C), ('a', 0x07), ('b', 0x08), ('f', 0x0C),
    ('n', 0x0A), ('r', 0x0D), ('t', 0x09), ('v', 0x0B)].map fun escape => (escape.1.toUInt8, escape.2)

/-- What is written as escape sequences of a letter: these bytes do not stand in a body. -/
def controls : List UInt8 := [0x07, 0x08, 0x09, 0x0A, 0x0B, 0x0C, 0x0D]

/-- The apostrophe, the quote and the question mark. -/
def marks : List UInt8 := [0x27, quote, 0x3F]

/-- The bytes that a text of escape sequences and other bytes stands for. -/
def decode? : List UInt8 → Option (List UInt8)
  | [] => some []
  | byte :: rest =>
    if byte = backslash then
      match rest with
      | [] => none
      | mark :: rest => do return (← escapes.lookup mark) :: (← decode? rest)
    else (decode? rest).map (byte :: ·)

/-- A sequence of escape sequences and of bytes that need none. -/
inductive Body : List UInt8 → Prop where
  | nil : Body []
  | escape {mark byte : UInt8} {rest : List UInt8} :
      (mark, byte) ∈ escapes → Body rest → Body (backslash :: mark :: rest)
  | plain {byte : UInt8} {rest : List UInt8} :
      byte ∉ escapes.map Prod.snd → Body rest → Body (byte :: rest)

/-- Whether the byte that comes after some bytes is escaped. -/
def escapesNext (front : List UInt8) : Bool :=
  front.foldl (fun escaped byte => !escaped && byte == backslash) false

lemma lookup_escapes {mark byte : UInt8} (h : (mark, byte) ∈ escapes) :
    escapes.lookup mark = some byte := by
  have hall : ∀ escape ∈ escapes, escapes.lookup escape.1 = some escape.2 :=
    List.all_iff_forall_prop.1 (by decide)
  exact hall _ h

lemma encodeByte_cases (byte : UInt8) :
    (∃ mark, (mark, byte) ∈ escapes ∧ encodeByte byte = [backslash, mark]) ∨
      byte ∉ escapes.map Prod.snd ∧ encodeByte byte = [byte] := by
  unfold encodeByte escape?
  split
  · next mark h =>
    left
    refine ⟨mark.toUInt8, ?_, rfl⟩
    split at h <;> cases h <;> decide
  · next h =>
    right
    refine ⟨fun hmem => ?_, rfl⟩
    have hall : ∀ byte ∈ escapes.map Prod.snd, escape? byte ≠ none :=
      List.all_iff_forall_prop.1 (by decide)
    exact hall byte hmem h

lemma encodeByte_of_mem {mark byte : UInt8} (h : (mark, byte) ∈ escapes) :
    encodeByte byte = [backslash, mark] := by
  have hall : ∀ escape ∈ escapes, encodeByte escape.2 = [backslash, escape.1] :=
    List.all_iff_forall_prop.1 (by decide)
  exact hall _ h

lemma encodeByte_of_notMem {byte : UInt8} (h : byte ∉ escapes.map Prod.snd) :
    encodeByte byte = [byte] := by
  obtain ⟨mark, hmem, -⟩ | ⟨-, hplain⟩ := encodeByte_cases byte
  · exact absurd (List.mem_map_of_mem hmem) h
  · exact hplain

lemma encode_cons (byte : UInt8) (bytes : List UInt8) :
    encode (byte :: bytes) = encodeByte byte ++ encode bytes := rfl

lemma ne_backslash_of_notMem {byte : UInt8} (h : byte ∉ escapes.map Prod.snd) :
    byte ≠ backslash := by
  rintro rfl
  exact h (by decide)

lemma decode?_escape {mark byte : UInt8} (h : (mark, byte) ∈ escapes) (rest : List UInt8) :
    decode? (backslash :: mark :: rest) = (decode? rest).map (byte :: ·) := by
  rw [decode?, if_pos rfl, lookup_escapes h]
  cases decode? rest <;> rfl

lemma decode?_plain {byte : UInt8} (h : byte ≠ backslash) (rest : List UInt8) :
    decode? (byte :: rest) = (decode? rest).map (byte :: ·) := by
  rw [decode?.eq_def]
  exact if_neg h

lemma decode?_encode (bytes : List UInt8) : decode? (encode bytes) = some bytes := by
  induction bytes with
  | nil => rfl
  | cons byte bytes ih =>
    rw [encode_cons]
    obtain ⟨mark, hmem, hbyte⟩ | ⟨hnone, hbyte⟩ := encodeByte_cases byte
    · rw [hbyte, List.cons_append, List.singleton_append, decode?_escape hmem, ih]
      rfl
    · rw [hbyte, List.singleton_append, decode?_plain (ne_backslash_of_notMem hnone), ih]
      rfl

example : encode [0x41, 0x27, 0x0A] = [0x41, 0x5C, 0x27, 0x5C, 0x6E] := by decide

lemma encode_injective {bytes bytes' : List UInt8} (h : encode bytes = encode bytes') :
    bytes = bytes' := by
  have hdecoded := congrArg decode? h
  rw [decode?_encode, decode?_encode] at hdecoded
  exact Option.some.inj hdecoded

lemma body_encode (bytes : List UInt8) : Body (encode bytes) := by
  induction bytes with
  | nil => exact .nil
  | cons byte bytes ih =>
    rw [encode_cons]
    obtain ⟨mark, hmem, hbyte⟩ | ⟨hnone, hbyte⟩ := encodeByte_cases byte
    · rw [hbyte]
      exact .escape hmem ih
    · rw [hbyte]
      exact .plain hnone ih

lemma Body.exists_encode {text : List UInt8} (h : Body text) : ∃ bytes, encode bytes = text := by
  induction h with
  | nil => exact ⟨[], rfl⟩
  | @escape mark byte rest hmem _ ih =>
    obtain ⟨bytes, rfl⟩ := ih
    exact ⟨byte :: bytes, by rw [encode_cons, encodeByte_of_mem hmem]; rfl⟩
  | @plain byte rest hnone _ ih =>
    obtain ⟨bytes, rfl⟩ := ih
    exact ⟨byte :: bytes, by rw [encode_cons, encodeByte_of_notMem hnone]; rfl⟩

lemma Body.notMem_controls {text : List UInt8} (h : Body text) : ∀ byte ∈ text, byte ∉ controls := by
  induction h with
  | nil => simp
  | @escape mark byte rest hmem _ ih =>
    have hall : ∀ escape ∈ escapes, escape.1 ∉ controls := List.all_iff_forall_prop.1 (by decide)
    have hbackslash : backslash ∉ controls := by decide
    intro found hfound
    rcases List.mem_cons.1 hfound with rfl | hfound
    · exact hbackslash
    · rcases List.mem_cons.1 hfound with rfl | hfound
      · exact hall _ hmem
      · exact ih found hfound
  | @plain byte rest hnone _ ih =>
    have hall : ∀ byte ∈ controls, byte ∈ escapes.map Prod.snd :=
      List.all_iff_forall_prop.1 (by decide)
    intro found hfound
    rcases List.mem_cons.1 hfound with rfl | hfound
    · exact fun hcontrol => hnone (hall _ hcontrol)
    · exact ih found hfound

lemma escapesNext_plain_cons {byte : UInt8} (h : byte ≠ backslash) (front : List UInt8) :
    escapesNext (byte :: front) = escapesNext front := by
  have hbyte : (byte == backslash) = false := beq_false_of_ne h
  simp [escapesNext, hbyte]

lemma escapesNext_escape_cons (mark : UInt8) (front : List UInt8) :
    escapesNext (backslash :: mark :: front) = escapesNext front := by
  simp [escapesNext]

/-- Right before an escaped byte stands a backslash that is not escaped itself. -/
lemma exists_of_escapesNext {front : List UInt8} (h : escapesNext front = true) :
    ∃ before, front = before ++ [backslash] ∧ escapesNext before = false := by
  obtain rfl | ⟨before, byte, rfl⟩ := List.eq_nil_or_concat front
  · cases h
  · have hlast : escapesNext (before ++ [byte]) = (!escapesNext before && byte == backslash) := by
      simp [escapesNext]
    rw [List.concat_eq_append] at h
    rw [hlast, Bool.and_eq_true, beq_iff_eq, Bool.not_eq_true'] at h
    obtain ⟨hunescaped, rfl⟩ := h
    exact ⟨before, List.concat_eq_append, hunescaped⟩

/-- What follows a body is not escaped. -/
lemma Body.escapesNext_append {text : List UInt8} (h : Body text) (front : List UInt8) :
    escapesNext (text ++ front) = escapesNext front := by
  induction h with
  | nil => rfl
  | escape _ _ ih => rw [List.cons_append, List.cons_append, escapesNext_escape_cons, ih]
  | plain hnone _ ih =>
    rw [List.cons_append, escapesNext_plain_cons (ne_backslash_of_notMem hnone), ih]

lemma Body.escapesNext_of_mem_marks {text : List UInt8} (h : Body text) {byte : UInt8}
    (hmark : byte ∈ marks) : ∀ front back, text = front ++ byte :: back → escapesNext front = true := by
  induction h with
  | nil =>
    intro front back heq
    simp at heq
  | @escape mark _ rest _ _ ih =>
    intro front back heq
    rcases front with _ | ⟨first, _ | ⟨second, front⟩⟩
    · obtain ⟨rfl, -⟩ := List.cons.inj heq
      exact absurd hmark (by decide)
    · obtain ⟨rfl, -⟩ := List.cons.inj heq
      rfl
    · obtain ⟨rfl, htail⟩ := List.cons.inj heq
      obtain ⟨rfl, hrest⟩ := List.cons.inj htail
      rw [escapesNext_escape_cons]
      exact ih front back hrest
  | @plain plain rest hnone _ ih =>
    have hall : ∀ byte ∈ marks, byte ∈ escapes.map Prod.snd := List.all_iff_forall_prop.1 (by decide)
    intro front back heq
    cases front with
    | nil =>
      obtain ⟨rfl, -⟩ := List.cons.inj heq
      exact absurd (hall _ hmark) hnone
    | cons first front =>
      obtain ⟨rfl, hrest⟩ := List.cons.inj heq
      rw [escapesNext_plain_cons (ne_backslash_of_notMem hnone)]
      exact ih front back hrest

/-- A text begins with a body up to its first quote that is not escaped. -/
structure ClosesAt (text body rest : List UInt8) : Prop where
  split : text = body ++ quote :: rest
  unescaped : escapesNext body = false
  first : ∀ front back, text = front ++ quote :: back → escapesNext front = false →
    body.length ≤ front.length

lemma Body.closesAt {body : List UInt8} (h : Body body) (rest : List UInt8) :
    ClosesAt (body ++ quote :: rest) body rest where
  split := rfl
  unescaped := by
    have hnil := h.escapesNext_append []
    rwa [List.append_nil] at hnil
  first := by
    intro front back heq hfront
    obtain ⟨middle, rfl, hmiddle⟩ | ⟨middle, rfl, hmiddle⟩ := List.append_eq_append_iff.1 heq
    · simp
    · cases middle with
      | nil => simp
      | cons byte middle =>
        obtain ⟨rfl, -⟩ := List.cons.inj hmiddle
        have hescaped := h.escapesNext_of_mem_marks (by decide) front middle rfl
        rw [hfront] at hescaped
        cases hescaped

end TreeDump.StringBytes
