import TreeDump.Proofs.Text.OneLine
import TreeDump.Proofs.Text.Splitting
import Mathlib.Data.List.Infix

/-!
# Occurrences in a text

The occurrences of a piece in a text are all places at which the text goes on with the piece, also
in the middle of a line. A piece that is the end of a line together with its line feed occurs in
lines once for each line that ends in this way.
-/

namespace TreeDump

/-- The places at which a text goes on with a piece. -/
def occurrences (piece text : List Char) : List Nat :=
  (List.range (text.length + 1)).filter fun place => piece <+: text.drop place

lemma occurrences_cons (piece : List Char) (c : Char) (rest : List Char) :
    occurrences piece (c :: rest) =
      (if piece <+: c :: rest then [0] else []) ++ (occurrences piece rest).map (· + 1) := by
  unfold occurrences
  rw [List.length_cons, List.range_succ_eq_map, List.filter_cons, List.filter_map]
  simp only [List.drop_zero, decide_eq_true_eq]
  split <;> rfl

/-- The text of lines, each with a line feed after it. -/
def joinLines (lines : List String) : List Char := lines.flatMap fun line => line.toList ++ ['\n']

/-- The lines are what stands in the text up to each line feed. -/
lemma splitOn_joinLines {lines : List String} (h : ∀ line ∈ lines, OneLine line) :
    (joinLines lines).splitOn '\n' = lines.map String.toList ++ [[]] := by
  induction lines with
  | nil => exact List.splitOn_nil '\n'
  | cons line lines ih =>
    have htext : joinLines (line :: lines) = line.toList ++ '\n' :: joinLines lines := by
      simp [joinLines]
    have hline : '\n' ∉ line.toList := h line (by simp)
    rw [htext, List.splitOn_append_cons_self_of_not_mem hline,
      ih fun other hother => h other (by simp [hother])]
    rfl

/-- The places at which lines have a given end, counted from a starting point. -/
def endings (ending : String) (start : Nat) : List String → List Nat
  | [] => []
  | line :: rest =>
    (if ending.toList <:+ line.toList then
        [start + (line.toList.length - ending.toList.length)] else []) ++
      endings ending (start + (line.toList.length + 1)) rest

lemma endings_append (ending : String) (start : Nat) (front back : List String) :
    endings ending start (front ++ back) =
      endings ending start front ++ endings ending (start + (joinLines front).length) back := by
  induction front generalizing start with
  | nil => rfl
  | cons line front ih =>
    have hlength : (joinLines (line :: front)).length =
        line.toList.length + 1 + (joinLines front).length := by
      simp only [joinLines, List.flatMap_cons, List.length_append, List.length_singleton]
    rw [List.cons_append, endings, endings, ih, hlength, List.append_assoc, Nat.add_assoc]

lemma endings_eq_nil {ending : String} {lines : List String}
    (h : ∀ line ∈ lines, ¬ ending.toList <:+ line.toList) (start : Nat) :
    endings ending start lines = [] := by
  induction lines generalizing start with
  | nil => rfl
  | cons line lines ih =>
    rw [endings, if_neg (h line (by simp)), ih fun other hother => h other (by simp [hother])]
    rfl

lemma map_endings (ending : String) (start shift : Nat) (lines : List String) :
    (endings ending start lines).map (· + shift) = endings ending (shift + start) lines := by
  induction lines generalizing start with
  | nil => rfl
  | cons line lines ih =>
    rw [endings, endings, List.map_append, ih, Nat.add_assoc shift start (line.toList.length + 1)]
    congr 1
    split
    · rw [List.map_singleton, Nat.add_comm _ shift, Nat.add_assoc]
    · rfl

/-- A line with its line feed can only stand at the beginning of a text whose first line it is. -/
lemma prefix_line_iff {ending line : List Char} (hending : '\n' ∉ ending) (hline : '\n' ∉ line)
    (rest : List Char) : ending ++ ['\n'] <+: line ++ '\n' :: rest ↔ ending = line := by
  constructor
  · rintro ⟨after, h⟩
    rw [List.append_assoc] at h
    have hfront : ∀ c ∈ ending, c ≠ '\n' := fun c hc => ne_of_mem_of_not_mem hc hending
    have hfront' : ∀ c ∈ line, c ≠ '\n' := fun c hc => ne_of_mem_of_not_mem hc hline
    exact (append_inj_of_stop hfront hfront' (by simp) (by simp) h).1
  · rintro rfl
    exact ⟨rest, by simp⟩

/-- The end of a line occurs in the line itself at most once, and then the search goes on behind the
line feed. -/
lemma occurrences_line {ending line : List Char} (hending : '\n' ∉ ending) (hline : '\n' ∉ line)
    (rest : List Char) :
    occurrences (ending ++ ['\n']) (line ++ '\n' :: rest) =
      (if ending <:+ line then [line.length - ending.length] else []) ++
        (occurrences (ending ++ ['\n']) rest).map (· + (line.length + 1)) := by
  induction line with
  | nil =>
    have hempty := prefix_line_iff hending (List.not_mem_nil : '\n' ∉ []) rest
    rw [List.nil_append] at hempty
    rw [List.nil_append, occurrences_cons]
    simp only [hempty, List.suffix_nil, List.length_nil, Nat.zero_sub]
  | cons c line ih =>
    have hwhole := prefix_line_iff hending hline rest
    rw [List.cons_append] at hwhole
    rw [List.cons_append, occurrences_cons, ih fun h => hline (List.mem_cons_of_mem c h)]
    simp only [hwhole, List.suffix_cons_iff, List.map_append, List.map_map]
    have hrest : ((fun place => place + 1) ∘ fun place => place + (line.length + 1)) =
        fun place => place + ((c :: line).length + 1) := by
      funext place
      simp only [Function.comp_apply, List.length_cons]
      omega
    rw [hrest, ← List.append_assoc]
    congr 1
    by_cases hsame : ending = c :: line
    · have hshorter : ¬ c :: line <:+ line := fun h => by
        have := h.length_le
        rw [List.length_cons] at this
        omega
      simp [hsame, hshorter]
    · by_cases hend : ending <:+ line
      · have := hend.length_le
        simp [hsame, hend]
        omega
      · simp [hsame, hend]

/-- The end of a line, together with the line feed, occurs in lines where lines end in this way. -/
theorem occurrences_joinLines {ending : String} {lines : List String} (hending : OneLine ending)
    (hlines : ∀ line ∈ lines, OneLine line) :
    occurrences (ending.toList ++ ['\n']) (joinLines lines) = endings ending 0 lines := by
  induction lines with
  | nil => simp [occurrences, joinLines, endings]
  | cons line lines ih =>
    have htext : joinLines (line :: lines) = line.toList ++ '\n' :: joinLines lines := by
      simp [joinLines]
    rw [htext, occurrences_line hending (hlines line (by simp)),
      ih fun other hother => hlines other (by simp [hother]), map_endings, endings]
    simp [Nat.add_comm]

end TreeDump
