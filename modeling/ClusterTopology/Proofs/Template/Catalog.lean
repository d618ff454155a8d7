import Mathlib.Data.List.Basic
import ClusterTopology.Catalog
import ClusterTopology.Proofs.Template.Shelf

/-!
A register in step is a catalog.

A catalog holds its keys and entries in one list, so they cannot part. It is told by its keys
and its look-ups (`Catalog.eq_of_find?`), and a register in step has those of a catalog
(`Register.toCatalog`).
-/

namespace ClusterTopology

namespace Catalog

variable {α : Type} {catalog other : Catalog α}

theorem lookup_eq_some_iff {entries : List (String × α)} (nodup : (entries.map Prod.fst).Nodup)
    {key : String} {value : α} : entries.lookup key = some value ↔ (key, value) ∈ entries := by
  induction entries with
  | nil => simp
  | cons entry rest ih =>
      obtain ⟨name, old⟩ := entry
      obtain ⟨fresh, nodup⟩ := List.nodup_cons.mp nodup
      rw [List.lookup_cons]
      by_cases same : key = name
      · subst same
        have absent : (key, value) ∉ rest := fun member =>
          fresh (List.mem_map.mpr ⟨_, member, rfl⟩)
        simp [absent, eq_comm]
      · simp [same, beq_false_of_ne same, ih nodup]

/-- A catalog finds exactly its entries. -/
theorem find?_eq_some_iff {key : String} {value : α} :
    catalog.find? key = some value ↔ (key, value) ∈ catalog.entries :=
  lookup_eq_some_iff catalog.keys_nodup

/-- The entries are what is found under the keys. -/
theorem map_some_entries (catalog : Catalog α) :
    catalog.entries.map some =
      catalog.keys.map fun key => (catalog.find? key).map fun value => (key, value) := by
  rw [keys, List.map_map]
  refine List.map_congr_left fun entry member => ?_
  rw [Function.comp_apply, find?_eq_some_iff.mpr member, Option.map_some]

/-- A catalog is told by its keys and its look-ups. -/
theorem eq_of_find? (keys : catalog.keys = other.keys) (found : catalog.find? = other.find?) :
    catalog = other := by
  have entries : catalog.entries.map some = other.entries.map some := by
    rw [map_some_entries, map_some_entries, keys, found]
  obtain ⟨list, nodup⟩ := catalog
  obtain rfl := List.map_injective_iff.mpr (fun _ _ => Option.some.inj) entries
  rfl

end Catalog

namespace Register

variable {α : Type} {register : Register α}

/-- The entries with their keys, as the order lists them. -/
def listed (register : Register α) : List (String × α) :=
  register.order.filterMap fun key => (register.find? key).map fun value => (key, value)

theorem InStep.map_fst_listed (inStep : register.InStep) :
    register.listed.map Prod.fst = register.order := by
  have there : ∀ key ∈ register.order,
      ((register.find? key).map fun value => (key, value)).map Prod.fst = some (id key) := by
    intro key member
    obtain ⟨value, found⟩ := Option.isSome_iff_exists.mp ((inStep.mem_order_iff key).mp member)
    rw [found]
    rfl
  rw [listed, List.map_filterMap, List.filterMap_eq_map_iff_forall_eq_some.mpr there, List.map_id]

/-- The catalog of the same keys and entries. -/
def toCatalog (register : Register α) (inStep : register.InStep) : Catalog α where
  entries := register.listed
  keys_nodup := inStep.map_fst_listed ▸ inStep.nodup

theorem keys_toCatalog (inStep : register.InStep) :
    (register.toCatalog inStep).keys = register.order := inStep.map_fst_listed

theorem find?_toCatalog (inStep : register.InStep) :
    (register.toCatalog inStep).find? = register.find? := by
  funext key
  refine Option.ext fun value => ?_
  rw [Catalog.find?_eq_some_iff]
  constructor
  · intro member
    obtain ⟨own, -, entry⟩ := List.mem_filterMap.mp member
    obtain ⟨_, found, ⟨⟩⟩ := Option.map_eq_some_iff.mp entry
    exact found
  · intro found
    have there : key ∈ register.order := by
      rw [inStep.mem_order_iff, contains, found, Option.isSome_some]
    exact List.mem_filterMap.mpr ⟨key, there, by rw [found, Option.map_some]⟩

end Register

end ClusterTopology
