import TreeDump.Schema.Registration
import Mathlib.Data.List.Nodup

/-!
# What schemas take

An attempt is accepted exactly if it offers a descriptor with a new name and with sound field names.
Then the descriptor comes to the end of the list, and otherwise nothing happens. So after any
attempts a schema is the list of what was accepted, and its names and field names are sound.
-/

namespace TreeDump

namespace Registration

/-- The descriptor that an attempt offers, or what is wrong with its row. -/
def offer : Registration → Except SchemaError Descriptor
  | descriptor offered => .ok offered
  | row spec => spec.descriptor

end Registration

namespace Descriptor

/-- No field name is empty, and none comes twice over scalars and children together. -/
structure Sound (descriptor : Descriptor) : Prop where
  nonempty : "" ∉ descriptor.fieldNames
  distinct : descriptor.fieldNames.Nodup

lemma nameDefect?_eq_none_iff (node : String) (seen names : List String) :
    nameDefect? node seen names = none ↔
      "" ∉ names ∧ names.Nodup ∧ ∀ name ∈ names, name ∉ seen := by
  induction names generalizing seen with
  | nil => simp [nameDefect?]
  | cons name names ih =>
    rw [nameDefect?]
    split
    · next h => simp [h]
    · next hname =>
      split
      · next h => simp [h]
      · next hseen =>
        rw [ih]
        simp only [List.mem_cons, List.nodup_cons, not_or, forall_eq_or_imp]
        grind

lemma defect?_eq_none_iff (descriptor : Descriptor) :
    descriptor.defect? = none ↔ descriptor.Sound := by
  unfold defect?
  rw [nameDefect?_eq_none_iff]
  exact ⟨fun ⟨hempty, hdistinct, _⟩ => ⟨hempty, hdistinct⟩,
    fun h => ⟨h.nonempty, h.distinct, fun _ _ => List.not_mem_nil⟩⟩

end Descriptor

namespace Schema

lemma get?_eq_none_iff (schema : Schema) (name : String) :
    schema.get? name = none ↔ name ∉ schema.names := by
  simp [get?, names]

/-- A descriptor that a schema can take: its name is new and its field names are sound. -/
structure Admits (schema : Schema) (descriptor : Descriptor) : Prop where
  fresh : descriptor.name ∉ schema.names
  sound : descriptor.Sound

lemma register_of_admits {schema : Schema} {descriptor : Descriptor}
    (h : schema.Admits descriptor) :
    schema.register descriptor = .ok ⟨schema.descriptors ++ [descriptor]⟩ := by
  have hfresh := (schema.get?_eq_none_iff descriptor.name).2 h.fresh
  have hsound := descriptor.defect?_eq_none_iff.2 h.sound
  simp [register, hfresh, hsound]

lemma register_of_not_admits {schema : Schema} {descriptor : Descriptor}
    (h : ¬ schema.Admits descriptor) : ∃ error, schema.register descriptor = .error error := by
  unfold register
  split
  · exact ⟨_, rfl⟩
  · next hfresh =>
    rw [Bool.not_eq_true, Option.isSome_eq_false_iff, Option.isNone_iff_eq_none,
      get?_eq_none_iff] at hfresh
    cases hdefect : descriptor.defect? with
    | some error => exact ⟨error, rfl⟩
    | none => exact absurd ⟨hfresh, descriptor.defect?_eq_none_iff.1 hdefect⟩ h

lemma attempt_eq (schema : Schema) (registration : Registration) :
    schema.attempt registration =
      match registration.offer with
      | .error error => (schema, some error)
      | .ok descriptor =>
        match schema.register descriptor with
        | .ok extended => (extended, none)
        | .error error => (schema, some error) := by
  cases registration with
  | descriptor descriptor => rfl
  | row spec =>
    simp only [attempt, extend, registerSpec, Registration.offer]
    cases spec.descriptor <;> rfl

/-- All that an attempt can do: it is accepted, with a descriptor that the schema admits, or it is
rejected, and then it offers no such descriptor. -/
lemma attempt_cases (schema : Schema) (registration : Registration) :
    (∃ descriptor, registration.offer = .ok descriptor ∧ schema.Admits descriptor ∧
        schema.attempt registration = (⟨schema.descriptors ++ [descriptor]⟩, none)) ∨
      ∃ error, (∀ descriptor, registration.offer = .ok descriptor → ¬ schema.Admits descriptor) ∧
        schema.attempt registration = (schema, some error) := by
  rw [attempt_eq]
  cases registration.offer with
  | error error =>
    right
    exact ⟨error, fun _ h => (nomatch h), rfl⟩
  | ok descriptor =>
    by_cases h : schema.Admits descriptor
    · left
      exact ⟨descriptor, rfl, h, by simp only [register_of_admits h]⟩
    · right
      obtain ⟨error, herror⟩ := register_of_not_admits h
      exact ⟨error, fun found hfound => Except.ok.inj hfound ▸ h, by simp only [herror]⟩

/-- The descriptors that attempts offer and that are not rejected, in order. -/
def accepted (schema : Schema) : List Registration → List Descriptor
  | [] => []
  | registration :: rest =>
    (if (schema.attempt registration).2 = none then registration.offer.toOption.toList else []) ++
      accepted (schema.attempt registration).1 rest

/-- Attempts only add to the end of a schema, and what they add is what is accepted. -/
theorem descriptors_afterAll (schema : Schema) (registrations : List Registration) :
    (schema.afterAll registrations).descriptors =
      schema.descriptors ++ schema.accepted registrations := by
  induction registrations generalizing schema with
  | nil => exact (List.append_nil _).symm
  | cons registration registrations ih =>
    have hafter : schema.afterAll (registration :: registrations) =
        (schema.attempt registration).1.afterAll registrations := rfl
    rw [hafter, ih, accepted]
    obtain ⟨descriptor, hoffer, -, hattempt⟩ | ⟨error, -, hattempt⟩ :=
      schema.attempt_cases registration
    · simp [hattempt, hoffer, Except.toOption]
    · simp [hattempt]

/-- A schema whose names are distinct and whose descriptors are sound. -/
structure Sound (schema : Schema) : Prop where
  distinct : schema.names.Nodup
  sound : ∀ descriptor ∈ schema.descriptors, descriptor.Sound

lemma sound_empty : empty.Sound := ⟨List.nodup_nil, by simp [empty]⟩

lemma Sound.attempt {schema : Schema} (h : schema.Sound) (registration : Registration) :
    (schema.attempt registration).1.Sound := by
  obtain ⟨descriptor, -, hadmits, hattempt⟩ | ⟨error, -, hattempt⟩ :=
    schema.attempt_cases registration
  · rw [hattempt]
    have hnames : (⟨schema.descriptors ++ [descriptor]⟩ : Schema).names =
        schema.names ++ [descriptor.name] := by simp [names]
    refine ⟨?_, fun found hfound => ?_⟩
    · rw [hnames, List.nodup_append]
      refine ⟨h.distinct, by simp, fun name hname other hother heq => ?_⟩
      rw [List.mem_singleton.1 hother] at heq
      exact hadmits.fresh (heq ▸ hname)
    · rcases List.mem_append.1 hfound with hold | hnew
      · exact h.sound found hold
      · rw [List.mem_singleton.1 hnew]
        exact hadmits.sound
  · rw [hattempt]
    exact h

lemma Sound.afterAll {schema : Schema} (h : schema.Sound) (registrations : List Registration) :
    (schema.afterAll registrations).Sound := by
  induction registrations generalizing schema with
  | nil => exact h
  | cons registration registrations ih => exact ih (h.attempt registration)

lemma get?_eq_some_iff {schema : Schema} (h : schema.names.Nodup) {name : String}
    {descriptor : Descriptor} :
    schema.get? name = some descriptor ↔
      descriptor ∈ schema.descriptors ∧ descriptor.name = name := by
  constructor
  · intro hget
    exact ⟨List.mem_of_find?_eq_some hget, by simpa using List.find?_some hget⟩
  · rintro ⟨hmem, rfl⟩
    cases hget : schema.get? descriptor.name with
    | none => exact absurd (List.mem_map_of_mem hmem) ((schema.get?_eq_none_iff _).1 hget)
    | some found =>
      have hfound : found.name = descriptor.name := by simpa using List.find?_some hget
      rw [List.inj_on_of_nodup_map h (List.mem_of_find?_eq_some hget) hmem hfound]

end Schema

end TreeDump
