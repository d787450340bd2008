import TreeDump.Schema.Registration
import TreeDump.Table

/-!
# Registries

A registry is a schema that grows in place. It keeps the descriptors in order and beside them an
index, the position of each name, so that a name is not searched for. An attempt works on the
registry step by step, and a failure takes no step back: a rejected attempt changes nothing only
because all its checks come before its first step.
-/

namespace TreeDump

/-- Descriptors in order, and the position of each name among them. -/
structure Registry where
  descriptors : Array Descriptor
  positions : Table Nat

namespace Registry

def empty : Registry := ⟨#[], .empty⟩

/-- The schema of the descriptors. -/
def schema (registry : Registry) : Schema := ⟨registry.descriptors.toList⟩

def size (registry : Registry) : Nat := registry.descriptors.size

/-- The descriptor at the position of a name. -/
def get? (registry : Registry) (name : String) : Option Descriptor :=
  (registry.positions.get? name).bind fun position => registry.descriptors[position]?

/-- An action on a registry that ends at the first failure and keeps what it has done by then. -/
abbrev Action := ExceptT SchemaError (StateM Registry)

/-- Takes a descriptor, unless that is unsound. -/
def register (descriptor : Descriptor) : Action Unit := do
  let registry ← get
  if (registry.positions.get? descriptor.name).isSome then
    throw (.duplicateNode descriptor.name)
  else match descriptor.defect? with
    | some error => throw error
    | none =>
      set { registry with
        positions := registry.positions.insert descriptor.name registry.descriptors.size }
      modify fun registry => { registry with descriptors := registry.descriptors.push descriptor }

/-- Takes what an attempt offers. -/
def extend : Registration → Action Unit
  | .descriptor descriptor => register descriptor
  | .row spec => ExceptT.mk (pure spec.descriptor) >>= register

/-- The registry after an attempt, and the reason if it was rejected. -/
def attempt (registry : Registry) (registration : Registration) : Registry × Option SchemaError :=
  match (extend registration).run.run registry with
  | (.ok (), after) => (after, none)
  | (.error error, after) => (after, some error)

/-- The registry after attempts that follow each other. -/
def afterAll (registry : Registry) (registrations : List Registration) : Registry :=
  registrations.foldl (fun registry registration => (registry.attempt registration).1) registry

end Registry

end TreeDump
