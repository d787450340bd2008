import TreeDump.Schema.Basic

/-!
# Attempts at registration

A schema grows by attempts, each with a descriptor or a table row. An attempt that is rejected
leaves the schema as it is.
-/

namespace TreeDump

/-- What an attempt offers to a schema. -/
inductive Registration where
  | descriptor (descriptor : Descriptor)
  | row (spec : NodeSpec)

namespace Schema

/-- The schema that has taken what an attempt offers, or the reason for its rejection. -/
def extend (schema : Schema) : Registration → Except SchemaError Schema
  | .descriptor descriptor => schema.register descriptor
  | .row spec => schema.registerSpec spec

/-- The schema after an attempt, and the reason if it was rejected. -/
def attempt (schema : Schema) (registration : Registration) : Schema × Option SchemaError :=
  match schema.extend registration with
  | .ok extended => (extended, none)
  | .error error => (schema, some error)

/-- The schema after attempts that follow each other. -/
def afterAll (schema : Schema) (registrations : List Registration) : Schema :=
  registrations.foldl (fun schema registration => (schema.attempt registration).1) schema

end Schema

end TreeDump
