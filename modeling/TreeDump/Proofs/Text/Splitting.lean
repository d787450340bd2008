import Mathlib.Tactic.Lemma

/-!
# Splitting texts

A text that is made of two parts can be split again if the first part ends where a character of
another kind comes for the first time.
-/

namespace TreeDump

universe u

/-- Two parts are determined by the whole if all of the first part is of one kind and the second
part, unless it is empty, begins with something else. -/
lemma append_inj_of_stop {α : Type u} {kind : α → Prop} {front front' back back' : List α}
    (hfront : ∀ c ∈ front, kind c) (hfront' : ∀ c ∈ front', kind c)
    (hback : ∀ c ∈ back.head?, ¬ kind c) (hback' : ∀ c ∈ back'.head?, ¬ kind c)
    (h : front ++ back = front' ++ back') : front = front' ∧ back = back' := by
  induction front generalizing front' with
  | nil =>
    cases front' with
    | nil => exact ⟨rfl, h⟩
    | cons c front' =>
      rw [List.nil_append] at h
      exact absurd (hfront' c (by simp)) (hback c (by simp [h]))
  | cons c front ih =>
    cases front' with
    | nil =>
      rw [List.nil_append] at h
      exact absurd (hfront c (by simp)) (hback' c (by simp [← h]))
    | cons c' front' =>
      obtain ⟨hhead, htail⟩ := List.cons.inj h
      obtain ⟨hrest, hends⟩ := ih (fun d hd => hfront d (by simp [hd]))
        (fun d hd => hfront' d (by simp [hd])) htail
      exact ⟨by rw [hhead, hrest], hends⟩

end TreeDump
