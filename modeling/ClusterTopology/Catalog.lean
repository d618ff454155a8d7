/-!
Catalogs: entries under keys, kept in the order in which the keys first came.
Putting an entry under a key that is already there replaces the entry and leaves
it at its place. `find?_insert` and `keys_insert` say what an insertion does to
look-ups and to the order.
-/

namespace ClusterTopology

/-- Entries under distinct keys, in a fixed order. -/
structure Catalog (α : Type) where
  entries : List (String × α)
  keys_nodup : (entries.map Prod.fst).Nodup

namespace Catalog

variable {α : Type}

/-- Replace the entry under the key, or add one at the end. -/
def put (key : String) (value : α) : List (String × α) → List (String × α)
  | [] => [(key, value)]
  | (other, old) :: rest =>
    if other = key then (key, value) :: rest else (other, old) :: put key value rest

theorem map_fst_put (key : String) (value : α) (entries : List (String × α)) :
    (put key value entries).map Prod.fst =
      if key ∈ entries.map Prod.fst then entries.map Prod.fst
      else entries.map Prod.fst ++ [key] := by
  induction entries with
  | nil => simp [put]
  | cons entry rest ih =>
    obtain ⟨other, old⟩ := entry
    by_cases same : other = key
    · simp [put, same]
    · have differs : key ≠ other := fun h => same h.symm
      simp only [put, same, if_false, List.map_cons, ih, List.mem_cons, differs, false_or]
      split <;> simp_all

theorem nodup_put (key : String) (value : α) {entries : List (String × α)}
    (nodup : (entries.map Prod.fst).Nodup) :
    ((put key value entries).map Prod.fst).Nodup := by
  rw [map_fst_put]
  split
  · exact nodup
  · rename_i absent
    refine List.nodup_append.mpr ⟨nodup, by simp, ?_⟩
    intro a inside b last
    simp at last
    rintro rfl
    exact absent (last ▸ inside)

theorem lookup_put (key wanted : String) (value : α) (entries : List (String × α)) :
    (put key value entries).lookup wanted =
      if wanted = key then some value else entries.lookup wanted := by
  induction entries with
  | nil => by_cases hit : wanted = key <;> simp [put, List.lookup_cons, hit, beq_false_of_ne]
  | cons entry rest ih =>
    obtain ⟨other, old⟩ := entry
    by_cases same : other = key
    · subst same
      by_cases hit : wanted = other <;> simp [put, List.lookup_cons, hit, beq_false_of_ne]
    · by_cases hit : wanted = other
      · subst hit
        simp [put, same]
      · simp [put, same, List.lookup_cons, hit, beq_false_of_ne, ih]

/-- The catalog without entries. -/
def empty : Catalog α := ⟨[], by simp⟩

/-- Put an entry under a key. -/
def insert (catalog : Catalog α) (key : String) (value : α) : Catalog α :=
  ⟨put key value catalog.entries, nodup_put key value catalog.keys_nodup⟩

/-- The entry under a key. -/
def find? (catalog : Catalog α) (key : String) : Option α := catalog.entries.lookup key

/-- The keys, in order. -/
def keys (catalog : Catalog α) : List String := catalog.entries.map Prod.fst

@[simp] theorem find?_empty (key : String) : (empty : Catalog α).find? key = none := rfl

/-- An insertion changes the look-up of its own key only. -/
theorem find?_insert (catalog : Catalog α) (key wanted : String) (value : α) :
    (catalog.insert key value).find? wanted =
      if wanted = key then some value else catalog.find? wanted :=
  lookup_put key wanted value catalog.entries

/-- A new key goes to the end; a known one stays where it is. -/
theorem keys_insert (catalog : Catalog α) (key : String) (value : α) :
    (catalog.insert key value).keys =
      if key ∈ catalog.keys then catalog.keys else catalog.keys ++ [key] :=
  map_fst_put key value catalog.entries

end Catalog

end ClusterTopology
