/-!
# Ordered tables

Tables keyed by strings that remember the order in which keys first came. Putting a known key
replaces its value and keeps its place.
-/
namespace ResolverGen

/-- Entries in order of first insertion; keys are distinct in every table built by `put`. -/
abbrev Table (α : Type) := List (String × α)

namespace Table

variable {α : Type}

/-- The value of the first entry with the key. -/
def get? : Table α → String → Option α
  | [], _ => none
  | (k, v) :: rest, key => if k = key then some v else get? rest key

def has (table : Table α) (key : String) : Bool := table.any (·.1 = key)

def keys (table : Table α) : List String := table.map (·.1)

def put (table : Table α) (key : String) (value : α) : Table α :=
  match table with
  | [] => [(key, value)]
  | (k, v) :: rest => if k = key then (k, value) :: rest else (k, v) :: put rest key value

/-- The entries of `upper` put into `table` one after another. -/
def overlay (table upper : Table α) : Table α :=
  upper.foldl (fun acc entry => acc.put entry.1 entry.2) table

/-- Entries put into an empty table: of one key, the last value in the first place. -/
def ofEntries (entries : List (String × α)) : Table α := overlay [] entries

/-- First occurrences only, in order. -/
def distinct (names : List String) : List String :=
  names.foldl (fun acc name => if name ∈ acc then acc else acc ++ [name]) []

theorem get?_put (table : Table α) (key other : String) (value : α) :
    (table.put key value).get? other = if key = other then some value else table.get? other := by
  induction table with
  | nil => rfl
  | cons entry rest ih =>
    obtain ⟨k, v⟩ := entry
    by_cases hk : k = key
    · subst hk
      by_cases h : k = other <;> simp [put, get?, h]
    · by_cases h : k = other
      · subst h
        simp [put, get?, hk, Ne.symm hk]
      · simp [put, get?, hk, h, ih]

theorem keys_put (table : Table α) (key : String) (value : α) :
    (table.put key value).keys = if key ∈ table.keys then table.keys else table.keys ++ [key] := by
  induction table with
  | nil => simp [put, keys]
  | cons entry rest ih =>
    obtain ⟨k, v⟩ := entry
    simp only [keys] at ih ⊢
    by_cases hk : k = key
    · simp [put, hk]
    · by_cases hm : key ∈ rest.map (·.1) <;> simp_all [put, Ne.symm hk]

theorem has_iff (table : Table α) (key : String) : table.has key = true ↔ key ∈ table.keys := by
  simp [has, keys]

/-- A key has a value exactly when the table holds it. -/
theorem get?_isSome (table : Table α) (key : String) :
    (table.get? key).isSome = true ↔ key ∈ table.keys := by
  induction table with
  | nil => simp [get?, keys]
  | cons entry rest ih =>
    obtain ⟨k, v⟩ := entry
    by_cases h : k = key
    · simp [get?, keys, h]
    · simpa [get?, keys, h, Ne.symm h] using ih

end Table

end ResolverGen
