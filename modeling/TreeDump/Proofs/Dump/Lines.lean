import TreeDump.Proofs.Dump.Listing
import TreeDump.Proofs.Number.ShortestText

/-!
# What lines determine

Lines without line breaks can be told apart again in what is written for them, and a line at a known
depth determines its text. The text of a field determines its value, and the labels of counts and
keys determine the counts and the keys.
-/

namespace TreeDump

namespace Line

lemma toList_text_field (label value : String) (depth : Nat) :
    (field label value depth).text.toList =
      label.toList ++ ':' :: if value = "" then [] else ' ' :: value.toList := by
  unfold field
  split <;> simp

lemma text_eq_of_render {text text' : String} {depth : Nat}
    (h : render ⟨text, depth⟩ = render ⟨text', depth⟩) : text = text' :=
  (String.append_right_inj _).1 h

lemma value_eq_of_render {label value value' : String} {depth : Nat}
    (h : (field label value depth).render = (field label value' depth).render) :
    value = value' := by
  have htexts : (field label value depth).text.toList = (field label value' depth).text.toList :=
    congrArg String.toList (text_eq_of_render h)
  rw [toList_text_field, toList_text_field, List.append_right_inj, List.cons.injEq] at htexts
  obtain ⟨-, hvalues⟩ := htexts
  split at hvalues <;> split at hvalues
  · simp_all
  · cases hvalues
  · cases hvalues
  · exact String.toList_inj.1 (List.cons.inj hvalues).2

lemma label_eq_of_render {label label' : String} {depth : Nat}
    (h : (heading label depth).render = (heading label' depth).render) : label = label' :=
  (String.append_left_inj _).1 (text_eq_of_render h)

lemma middle_eq_of_render {opening middle middle' closing : String} {depth : Nat}
    (h : render ⟨opening ++ middle ++ closing, depth⟩ =
      render ⟨opening ++ middle' ++ closing, depth⟩) : middle = middle' := by
  have htexts := text_eq_of_render h
  rwa [String.append_left_inj, String.append_right_inj] at htexts

lemma count_eq_of_render_list {m n depth : Nat}
    (h : (list m depth).render = (list n depth).render) : m = n :=
  Decimal.ofNat_injective (middle_eq_of_render h)

lemma count_eq_of_render_dict {m n depth : Nat}
    (h : (dict m depth).render = (dict n depth).render) : m = n :=
  Decimal.ofNat_injective (middle_eq_of_render h)

lemma key_eq_of_render {name name' : String} {depth : Nat}
    (h : (key name depth).render = (key name' depth).render) : name = name' :=
  middle_eq_of_render h

/-- A line whose text has no line break. -/
def Unbroken (line : Line) : Prop := '\n' ∉ line.text.toList

def body (line : Line) : List Char :=
  List.replicate (2 * (line.depth - 1)) ' ' ++ line.text.toList

lemma toList_render (line : Line) : line.render.toList = '\n' :: line.body := by
  simp [render, body]

lemma Unbroken.body {line : Line} (h : line.Unbroken) : ∀ c ∈ line.body, c ≠ '\n' := by
  intro c hc hnewline
  cases List.mem_append.1 hc with
  | inl hc =>
    rw [List.eq_of_mem_replicate hc] at hnewline
    exact absurd hnewline (by decide)
  | inr hc => exact h (hnewline ▸ hc)

lemma head?_renderAll (lines : List Line) : ∀ c ∈ (renderAll lines).toList.head?, ¬ c ≠ '\n' := by
  cases lines with
  | nil => simp [renderAll]
  | cons line lines => simp [renderAll, toList_render]

/-- Unbroken lines are determined by what is written for them, since what follows a line is nothing
or begins with a line break. -/
theorem map_render_eq_of_renderAll {lines lines' : List Line} (hlines : ∀ line ∈ lines, line.Unbroken)
    (hlines' : ∀ line ∈ lines', line.Unbroken) (h : renderAll lines = renderAll lines') :
    lines.map render = lines'.map render := by
  induction lines generalizing lines' with
  | nil =>
    cases lines' with
    | nil => rfl
    | cons line lines' =>
      have htexts := congrArg String.toList h
      simp [renderAll, toList_render] at htexts
  | cons line lines ih =>
    cases lines' with
    | nil =>
      have htexts := congrArg String.toList h
      simp [renderAll, toList_render] at htexts
    | cons line' lines' =>
      have htexts := congrArg String.toList h
      simp only [renderAll, String.toList_append, toList_render, List.cons_append, List.cons.injEq,
        true_and] at htexts
      obtain ⟨hbody, hrest⟩ := append_inj_of_stop (hlines line (by simp)).body
        (hlines' line' (by simp)).body (head?_renderAll lines) (head?_renderAll lines') htexts
      have hhead : line.render = line'.render := by
        rw [← String.toList_inj, toList_render, toList_render, hbody]
      rw [List.map_cons, List.map_cons, hhead, ih (fun l hl => hlines l (by simp [hl]))
        (fun l hl => hlines' l (by simp [hl])) (String.toList_inj.1 hrest)]

end Line

end TreeDump
