import TreeDump.Schema.Registry
import TreeDump.Dump.Call
import TreeDump.Program.OfSchema
import TreeDump.Program.Source
import TreeDump.Proofs.Schema.Registration

/-!
# Registries run as schemas

The index of a registry is coherent if a name has a position exactly where a descriptor of that name
stands. An attempt keeps the index coherent and does to the registry what it does to the schema of
its descriptors. A rejected one leaves the registry as it was, index and all.
-/

namespace TreeDump.Registry

/-- The index has a name at a position exactly if the descriptor there has that name. -/
def Coherent (registry : Registry) : Prop :=
  ∀ name position, registry.positions.get? name = some position ↔
    ∃ descriptor, registry.descriptors[position]? = some descriptor ∧ descriptor.name = name

lemma coherent_empty : empty.Coherent := by
  intro name position
  simp [empty, Table.get?_empty]

namespace Coherent

variable {registry : Registry}

/-- Whatever a search finds under a name stands at the position of the name. -/
lemma get?_eq (h : registry.Coherent) (name : String) :
    registry.get? name = registry.schema.get? name := by
  have hmem : ∀ {position descriptor}, registry.descriptors[position]? = some descriptor →
      descriptor ∈ registry.schema.descriptors := fun hposition =>
    Array.mem_toList_iff.2 (Array.mem_of_getElem? hposition)
  cases hposition : registry.positions.get? name with
  | none =>
    have hnone : registry.schema.get? name = none := by
      rw [Schema.get?_eq_none_iff]
      intro hname
      obtain ⟨descriptor, hdescriptor, rfl⟩ := List.mem_map.1 hname
      obtain ⟨position, hfound⟩ := List.mem_iff_getElem?.1 hdescriptor
      have hindexed :=
        (h descriptor.name position).2 ⟨descriptor, by simpa [schema] using hfound, rfl⟩
      rw [hposition] at hindexed
      cases hindexed
    rw [get?, hposition, hnone]
    rfl
  | some position =>
    obtain ⟨descriptor, hdescriptor, rfl⟩ := (h name position).1 hposition
    cases hget : registry.schema.get? descriptor.name with
    | none =>
      exact absurd (List.mem_map_of_mem (hmem hdescriptor)) ((Schema.get?_eq_none_iff ..).1 hget)
    | some found =>
      obtain ⟨other, hother⟩ := List.mem_iff_getElem?.1 (List.mem_of_find?_eq_some hget)
      have hname : found.name = descriptor.name := by simpa using List.find?_some hget
      have hindexed := (h descriptor.name other).2 ⟨found, by simpa [schema] using hother, hname⟩
      obtain rfl : position = other := Option.some.inj (hposition.symm.trans hindexed)
      rw [get?, hposition, Option.bind_some]
      simpa [schema] using hother

end Coherent

/-- The registry with one more descriptor and its position. -/
def push (registry : Registry) (descriptor : Descriptor) : Registry :=
  ⟨registry.descriptors.push descriptor,
    registry.positions.insert descriptor.name registry.descriptors.size⟩

lemma schema_push (registry : Registry) (descriptor : Descriptor) :
    (registry.push descriptor).schema = ⟨registry.schema.descriptors ++ [descriptor]⟩ := by
  simp [push, schema]

lemma Coherent.push {registry : Registry} (h : registry.Coherent) {descriptor : Descriptor}
    (hfresh : descriptor.name ∉ registry.schema.names) : (registry.push descriptor).Coherent := by
  intro name position
  change (registry.positions.insert descriptor.name registry.descriptors.size).get? name =
    some position ↔
      ∃ found, (registry.descriptors.push descriptor)[position]? = some found ∧ found.name = name
  rw [Table.get?_insert, Array.getElem?_push]
  have hold : ∀ {found}, registry.descriptors[position]? = some found →
      found.name ≠ descriptor.name :=
    fun hfound heq => hfresh (heq ▸ List.mem_map_of_mem
      (Array.mem_toList_iff.2 (Array.mem_of_getElem? hfound)))
  have hrange : ∀ {found}, registry.descriptors[position]? = some found →
      position ≠ registry.descriptors.size := fun hfound =>
    Nat.ne_of_lt (Array.getElem?_eq_some_iff.1 hfound).1
  split
  · next hname =>
    subst hname
    constructor
    · intro hposition
      exact ⟨descriptor, by rw [if_pos (Option.some.inj hposition).symm], rfl⟩
    · rintro ⟨found, hfound, heq⟩
      split at hfound
      · next hlast => rw [hlast]
      · exact absurd heq (hold hfound)
  · next hname =>
    rw [h name position]
    constructor
    · rintro ⟨found, hfound, heq⟩
      exact ⟨found, by rw [if_neg (hrange hfound), hfound], heq⟩
    · rintro ⟨found, hfound, heq⟩
      split at hfound
      · cases hfound
        exact absurd heq.symm hname
      · exact ⟨found, hfound, heq⟩

lemma Coherent.isSome_position {registry : Registry} (h : registry.Coherent) (name : String) :
    (registry.positions.get? name).isSome = (registry.schema.get? name).isSome := by
  rw [← h.get?_eq, get?]
  cases hposition : registry.positions.get? name with
  | none => rfl
  | some position =>
    obtain ⟨found, hfound, -⟩ := (h _ _).1 hposition
    rw [Option.bind_some, hfound]
    rfl

lemma run_get_bind (next : Registry → Action Unit) (registry : Registry) :
    (get >>= next : Action Unit).run.run registry = (next registry).run.run registry := rfl

/-- What a registry takes or rejects is what the schema of its descriptors takes or rejects. The
checks come before the two steps, so a rejection finds the registry as it was. -/
lemma Coherent.run_register {registry : Registry} (h : registry.Coherent)
    (descriptor : Descriptor) :
    (register descriptor).run.run registry =
      match registry.schema.register descriptor with
      | .ok _ => (.ok (), registry.push descriptor)
      | .error error => (.error error, registry) := by
  rw [register, run_get_bind, Schema.register, ← h.isSome_position]
  cases (registry.positions.get? descriptor.name).isSome with
  | true => rfl
  | false => cases descriptor.defect? <;> rfl

lemma Coherent.attempt_eq {registry : Registry} (h : registry.Coherent)
    (registration : Registration) :
    registry.attempt registration =
      match registration.offer with
      | .error error => (registry, some error)
      | .ok descriptor =>
        match registry.schema.register descriptor with
        | .ok _ => (registry.push descriptor, none)
        | .error error => (registry, some error) := by
  have hregister : ∀ descriptor,
      (extend registration).run.run registry = (register descriptor).run.run registry →
      registry.attempt registration =
        match registry.schema.register descriptor with
        | .ok _ => (registry.push descriptor, none)
        | .error error => (registry, some error) := by
    intro descriptor hextend
    rw [attempt, hextend, h.run_register]
    cases registry.schema.register descriptor <;> rfl
  cases registration with
  | descriptor descriptor => exact hregister descriptor rfl
  | row spec =>
    rw [Registration.offer]
    cases hspec : spec.descriptor with
    | error error =>
      rw [attempt, extend, hspec]
      rfl
    | ok descriptor =>
      refine hregister descriptor ?_
      rw [extend, hspec]
      rfl

/-- An attempt at a registry is the attempt at its schema: both are accepted, with the same
descriptor, or both are rejected for the same reason. -/
lemma Coherent.attempt_cases {registry : Registry} (h : registry.Coherent)
    (registration : Registration) :
    (∃ descriptor, registration.offer = .ok descriptor ∧ registry.schema.Admits descriptor ∧
        registry.schema.attempt registration = ((registry.push descriptor).schema, none) ∧
        registry.attempt registration = (registry.push descriptor, none)) ∨
      ∃ error,
        (∀ descriptor, registration.offer = .ok descriptor →
          ¬ registry.schema.Admits descriptor) ∧
        registry.schema.attempt registration = (registry.schema, some error) ∧
        registry.attempt registration = (registry, some error) := by
  rw [h.attempt_eq, registry.schema.attempt_eq]
  cases registration.offer with
  | error error =>
    right
    exact ⟨error, fun _ h => (nomatch h), rfl, rfl⟩
  | ok descriptor =>
    by_cases hadmits : registry.schema.Admits descriptor
    · left
      have hregister := Schema.register_of_admits hadmits
      exact ⟨descriptor, rfl, hadmits, by simp only [hregister, schema_push],
        by simp only [hregister]⟩
    · right
      obtain ⟨error, hregister⟩ := Schema.register_of_not_admits hadmits
      exact ⟨error, fun found hfound => Except.ok.inj hfound ▸ hadmits, by simp only [hregister],
        by simp only [hregister]⟩

lemma Coherent.attempt {registry : Registry} (h : registry.Coherent) (registration : Registration) :
    (registry.attempt registration).1.Coherent ∧
      (registry.attempt registration).1.schema = (registry.schema.attempt registration).1 := by
  obtain ⟨descriptor, -, hadmits, hschema, hregistry⟩ | ⟨error, -, hschema, hregistry⟩ :=
    h.attempt_cases registration
  · rw [hregistry, hschema]
    exact ⟨h.push hadmits.fresh, rfl⟩
  · rw [hregistry, hschema]
    exact ⟨h, rfl⟩

lemma Coherent.afterAll {registry : Registry} (h : registry.Coherent)
    (registrations : List Registration) :
    (registry.afterAll registrations).Coherent ∧
      (registry.afterAll registrations).schema = registry.schema.afterAll registrations := by
  induction registrations generalizing registry with
  | nil => exact ⟨h, rfl⟩
  | cons registration registrations ih =>
    obtain ⟨hcoherent, hschema⟩ := h.attempt registration
    obtain ⟨hafter, hall⟩ := ih hcoherent
    refine ⟨hafter, hall.trans ?_⟩
    rw [hschema]
    rfl

/-- After any attempts, accepted or rejected, a schema is the list of the accepted descriptors in
order, with distinct names and sound field names, and look-up finds the one descriptor of a name. A
registry has the same descriptors, and its index has exactly their positions. The next attempt has
the same outcome at both. It is accepted exactly if it offers a descriptor that the schema admits,
and if it is rejected, nothing that can be seen of the registry has changed. -/
theorem afterAll_empty (registrations : List Registration) :
    let schema := Schema.empty.afterAll registrations
    let registry := empty.afterAll registrations
    schema.descriptors = Schema.empty.accepted registrations ∧
      schema.size = (Schema.empty.accepted registrations).length ∧
      schema.names.Nodup ∧
      (∀ descriptor ∈ schema.descriptors,
        "" ∉ descriptor.fieldNames ∧ descriptor.fieldNames.Nodup) ∧
      (∀ name descriptor, schema.get? name = some descriptor ↔
        descriptor ∈ schema.descriptors ∧ descriptor.name = name) ∧
      registry.schema = schema ∧
      (∀ name, registry.get? name = schema.get? name) ∧
      (∀ name position, registry.positions.get? name = some position ↔
        ∃ descriptor, registry.descriptors[position]? = some descriptor ∧ descriptor.name = name) ∧
      ∀ registration,
        let next := registry.attempt registration
        next.2 = (schema.attempt registration).2 ∧
          match next.2 with
          | none => ∃ descriptor, registration.offer = .ok descriptor ∧ schema.Admits descriptor ∧
              next.1.descriptors = registry.descriptors.push descriptor
          | some _ =>
            (∀ descriptor, registration.offer = .ok descriptor → ¬ schema.Admits descriptor) ∧
              (∀ name, next.1.get? name = registry.get? name) ∧
              next.1.descriptors = registry.descriptors ∧
              next.1.size = registry.size ∧
              next.1.schema.program.source = registry.schema.program.source ∧
              ∀ (call : Call) (sink : Sink),
                (call.dump next.1.schema).runOn sink = (call.dump registry.schema).runOn sink := by
  intro schema registry
  obtain ⟨hcoherent, hschema⟩ : registry.Coherent ∧ registry.schema = schema :=
    coherent_empty.afterAll registrations
  have hsound : schema.Sound := Schema.sound_empty.afterAll registrations
  have hdescriptors : schema.descriptors = Schema.empty.accepted registrations :=
    Schema.empty.descriptors_afterAll registrations
  refine ⟨hdescriptors, by rw [Schema.size, hdescriptors], hsound.distinct,
    fun descriptor hmem => ⟨(hsound.sound descriptor hmem).nonempty,
      (hsound.sound descriptor hmem).distinct⟩,
    fun name descriptor => Schema.get?_eq_some_iff hsound.distinct, hschema,
    fun name => by rw [hcoherent.get?_eq, hschema], hcoherent, fun registration => ?_⟩
  rw [← hschema]
  obtain ⟨descriptor, hoffer, hadmits, hat, hattempt⟩ | ⟨error, hoffer, hat, hattempt⟩ :=
    hcoherent.attempt_cases registration
  · rw [hattempt, hat]
    exact ⟨rfl, descriptor, hoffer, hadmits, rfl⟩
  · rw [hattempt, hat]
    exact ⟨rfl, hoffer, fun _ => rfl, rfl, rfl, rfl, fun _ _ => rfl⟩

end TreeDump.Registry
