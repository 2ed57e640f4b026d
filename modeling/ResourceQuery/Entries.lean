/-!
Mappings from texts that keep their entries in the order in which the keys first came: a key that
is put again keeps its place and takes the new value. A `Mapping` has no key twice. Types with
mappings of their own values inside, such as criteria, hold the `Entries` of these.
-/
namespace ResourceQuery

/-- The entries of a mapping, in their order. -/
abbrev Entries (α : Type) := List (String × α)

namespace Entries

variable {α : Type}

/-- The value of a key. -/
def get? (entries : Entries α) (key : String) : Option α := entries.lookup key

/-- The mapping with a key set to a value. -/
def put (key : String) (value : α) : Entries α → Entries α
  | [] => [(key, value)]
  | (other, old) :: rest =>
    if other = key then (key, value) :: rest else (other, old) :: put key value rest

/-- The mapping of pairs that are put one after the other. -/
def ofPairs (pairs : List (String × α)) : Entries α :=
  pairs.foldl (fun entries pair => entries.put pair.1 pair.2) []

/-- The keys after a key has been put: those that were there, and the new one. -/
theorem mem_keys_put (key other : String) (value : α) (entries : Entries α) :
    other ∈ (put key value entries).map Prod.fst ↔ other = key ∨ other ∈ entries.map Prod.fst := by
  induction entries with
  | nil => simp [put]
  | cons entry rest ih =>
    obtain ⟨name, old⟩ := entry
    by_cases same : name = key
    · subst same
      simp [put]
    · rw [put, if_neg same, List.map_cons, List.map_cons, List.mem_cons, List.mem_cons, ih]
      exact or_left_comm

/-- Putting keeps the keys apart. -/
theorem nodup_put {key : String} {entries : Entries α} (apart : (entries.map Prod.fst).Nodup) (value : α) :
    ((put key value entries).map Prod.fst).Nodup := by
  induction entries with
  | nil => simp [put]
  | cons first rest ih =>
    rw [List.map_cons, List.nodup_cons] at apart
    rw [put]
    split
    · rename_i same
      rw [List.map_cons, List.nodup_cons]
      exact ⟨same ▸ apart.1, apart.2⟩
    · rename_i other
      rw [List.map_cons, List.nodup_cons, mem_keys_put]
      exact ⟨fun found => found.elim other apart.1, ih apart.2⟩

end Entries

/-- A mapping: entries of which no two have the same key. -/
structure Mapping (α : Type) where
  entries : Entries α
  apart : (entries.map Prod.fst).Nodup
  deriving DecidableEq

namespace Mapping

variable {α : Type}

/-- The mapping without entries. -/
def empty : Mapping α := ⟨[], List.nodup_nil⟩

instance : Inhabited (Mapping α) := ⟨empty⟩

/-- The mapping with a key set to a value. -/
def put (mapping : Mapping α) (key : String) (value : α) : Mapping α :=
  ⟨mapping.entries.put key value, Entries.nodup_put mapping.apart value⟩

end Mapping
end ResourceQuery
