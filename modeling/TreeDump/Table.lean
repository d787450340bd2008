/-!
# Tables in insertion order

A table keeps one value for each text key and remembers the order in which the keys first came.
A key that comes again takes its new value in its old place.
-/

namespace TreeDump

universe u v

/-- One value per key, in the order in which the keys first came. -/
structure Table (α : Type u) where
  entries : List (String × α)

namespace Table

variable {α : Type u} {β : Type v}

def empty : Table α := ⟨[]⟩

instance : Inhabited (Table α) := ⟨empty⟩

def size (table : Table α) : Nat := table.entries.length

def keys (table : Table α) : List String := table.entries.map Prod.fst

def get? (table : Table α) (key : String) : Option α := table.entries.lookup key

/-- Entries after a key has taken a value: in its place if it is there, else at the end. -/
def put (key : String) (value : α) : List (String × α) → List (String × α)
  | [] => [(key, value)]
  | entry :: rest =>
    if entry.1 = key then (key, value) :: rest else entry :: put key value rest

def insert (table : Table α) (key : String) (value : α) : Table α :=
  ⟨put key value table.entries⟩

/-- The table that arises when entries are inserted one after the other. -/
def ofList (entries : List (String × α)) : Table α :=
  entries.foldl (fun table entry => table.insert entry.1 entry.2) empty

/-- The table with each value changed and the keys kept. -/
def map (f : α → β) (table : Table α) : Table β :=
  ⟨table.entries.map fun entry => (entry.1, f entry.2)⟩

theorem lookup_cons (name : String) (entry : String × α) (rest : List (String × α)) :
    (entry :: rest).lookup name = if name = entry.1 then some entry.2 else rest.lookup name := by
  rw [List.lookup_cons]
  by_cases h : name = entry.1
  · rw [if_pos h, beq_iff_eq.2 h]
  · rw [if_neg h, beq_false_of_ne h]

theorem lookup_put (key name : String) (value : α) (entries : List (String × α)) :
    (put key value entries).lookup name =
      if name = key then some value else entries.lookup name := by
  induction entries with
  | nil => rw [put, lookup_cons]
  | cons entry rest ih =>
    rw [put]
    split
    · simp_all only [lookup_cons]
      split <;> rfl
    · simp only [lookup_cons, ih]
      grind

/-- A key that takes the value it has changes nothing. -/
theorem put_of_lookup {key : String} {value : α} {entries : List (String × α)}
    (h : entries.lookup key = some value) : put key value entries = entries := by
  induction entries with
  | nil => cases h
  | cons entry rest ih =>
    rw [lookup_cons] at h
    rw [put]
    split at h
    · next hkey =>
      cases h
      rw [if_pos hkey.symm, hkey]
    · next hkey => rw [if_neg fun he => hkey he.symm, ih h]

/-- An insertion is seen under its own key and nowhere else. -/
theorem get?_insert (table : Table α) (key name : String) (value : α) :
    (table.insert key value).get? name = if name = key then some value else table.get? name :=
  lookup_put key name value table.entries

theorem get?_empty (name : String) : (empty : Table α).get? name = none := rfl

theorem get?_map (f : α → β) (table : Table α) (name : String) :
    (table.map f).get? name = (table.get? name).map f := by
  obtain ⟨entries⟩ := table
  simp only [get?, map]
  induction entries with
  | nil => rfl
  | cons entry rest ih =>
    rw [List.map_cons, lookup_cons, lookup_cons, ih]
    split <;> rfl

theorem size_map (f : α → β) (table : Table α) : (table.map f).size = table.size :=
  List.length_map ..

theorem keys_map (f : α → β) (table : Table α) : (table.map f).keys = table.keys := by
  simp [keys, map]

end Table

/-- Names without repetition, in the order in which they first came. -/
abbrev NameSet := Table Unit

def NameSet.ofNames (names : List String) : NameSet := Table.ofList (names.map fun n => (n, ()))

end TreeDump
