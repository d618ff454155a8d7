import Mathlib.Data.List.Basic
import ClusterTopology.Template.Store

/-!
Registers that are in step, and shelves.

What the order lists can be looked up, so the values of a register are what is found under
its keys, none of them missing (`InStep.map_some_values`). A value of a shelf stands under its
own key (`Shelf.mem_values_iff`). Keeping only some of the entries filters every look-up and
leaves order and entries in step. What a store finds is of the kind and bears the key it was
looked up under.
-/

namespace ClusterTopology

namespace Register

variable {α β : Type} {register : Register α}

/-- A new key goes to the end; a known one stays where it is. -/
theorem InStep.order_insert (inStep : register.InStep) (key : String) (value : α) :
    (register.insert key value).order =
      if key ∈ register.order then register.order else register.order ++ [key] := by
  by_cases known : register.contains key = true
  · rw [if_pos ((inStep.mem_order_iff key).mpr known)]
    exact if_pos known
  · rw [if_neg fun listed => known ((inStep.mem_order_iff key).mp listed)]
    exact if_neg known

/-- Under every key of the order stands its value. -/
theorem InStep.map_some_values (inStep : register.InStep) :
    register.values.map some = register.order.map register.find? := by
  rw [values, List.map_filterMap, List.filterMap_eq_map_iff_forall_eq_some]
  intro key listed
  obtain ⟨value, found⟩ := Option.isSome_iff_exists.mp ((inStep.mem_order_iff key).mp listed)
  rw [found, Option.map_some]

theorem InStep.length_values (inStep : register.InStep) :
    register.values.length = register.size := by
  rw [← List.length_map (f := some), inStep.map_some_values, List.length_map, size]

/-! ### Parts and views of a register -/

/-- Keep the entries that pass. -/
def filter (register : Register α) (passes : α → Bool) : Register α where
  order := register.order.filter fun key => (register.find? key).any passes
  entries := fun key => (register.find? key).filter passes

theorem find?_filter (passes : α → Bool) (key : String) :
    (register.filter passes).find? key = (register.find? key).filter passes := rfl

theorem values_filter (passes : α → Bool) :
    (register.filter passes).values = register.values.filter passes := by
  rw [values, values, filter, List.filterMap_filter, List.filter_filterMap]
  refine List.filterMap_congr fun key _ => ?_
  rw [← filter, find?_filter]
  cases register.find? key with
  | none => rfl
  | some value => cases passing : passes value <;> simp [Option.filter, passing]

theorem InStep.filter (inStep : register.InStep) (passes : α → Bool) :
    (register.filter passes).InStep where
  nodup := inStep.nodup.filter _
  mem_order_iff := by
    intro key
    rw [contains, find?_filter, Option.isSome_filter]
    simp only [Register.filter, List.mem_filter, inStep.mem_order_iff, contains]
    cases register.find? key <;> simp

/-- The same keys, with a view of what stands under them. -/
def map (register : Register α) (view : α → β) : Register β where
  order := register.order
  entries := fun key => (register.find? key).map view

theorem find?_map (view : α → β) (key : String) :
    (register.map view).find? key = (register.find? key).map view := rfl

theorem values_map (view : α → β) : (register.map view).values = register.values.map view := by
  rw [values, values, List.map_filterMap]
  rfl

/-- Viewing the entries and putting one in can be done in either order. -/
theorem map_insert (view : α → β) (key : String) (value : α) :
    (register.insert key value).map view = (register.map view).insert key (view value) := by
  have known : (register.map view).contains key = register.contains key := Option.isSome_map
  refine Register.ext ?_ (funext fun other => ?_)
  · simp only [insert, known]
    rfl
  · change ((register.insert key value).find? other).map view =
      ((register.map view).insert key (view value)).find? other
    rw [find?_insert, find?_insert]
    split <;> rfl

theorem InStep.map (inStep : register.InStep) (view : α → β) : (register.map view).InStep where
  nodup := inStep.nodup
  mem_order_iff := by
    intro key
    rw [contains, find?_map, Option.isSome_map]
    exact inStep.mem_order_iff key

end Register

namespace Shelf

variable {α : Type} {keyOf : α → String} {shelf : Shelf α keyOf}

theorem contains_iff_mem_order {key : String} :
    shelf.contains key = true ↔ key ∈ shelf.order :=
  (shelf.inStep.mem_order_iff key).symm

/-- A value stands under its own key. -/
theorem mem_values_iff {value : α} :
    value ∈ shelf.values ↔ shelf.find? (keyOf value) = some value := by
  rw [Register.values, List.mem_filterMap]
  constructor
  · rintro ⟨key, -, found⟩
    rwa [shelf.keyOf_of_find? found]
  · intro found
    refine ⟨keyOf value, contains_iff_mem_order.mp ?_, found⟩
    rw [Register.contains, found, Option.isSome_some]

/-- The values bear the keys. -/
theorem map_keyOf_values (shelf : Shelf α keyOf) : shelf.values.map keyOf = shelf.order := by
  have borne : ∀ key ∈ shelf.order, (shelf.find? key).map keyOf = some (id key) := by
    intro key listed
    obtain ⟨value, found⟩ := Option.isSome_iff_exists.mp (contains_iff_mem_order.mpr listed)
    rw [found, Option.map_some, shelf.keyOf_of_find? found, id]
  rw [Register.values, List.map_filterMap, List.filterMap_eq_map_iff_forall_eq_some.mpr borne,
    List.map_id]

/-- Keep the values that pass. -/
def filter (shelf : Shelf α keyOf) (passes : α → Bool) : Shelf α keyOf where
  toRegister := shelf.toRegister.filter passes
  inStep := shelf.inStep.filter passes
  keyOf_of_find? := by
    intro key value found
    rw [Register.find?_filter] at found
    exact shelf.keyOf_of_find? (Option.filter_eq_some_iff.mp found).1

end Shelf

namespace Store

variable {store : Store} {kind : Kind} {key : String} {template : Template}

theorem contains_eq_isSome_find? (store : Store) (kind : Kind) (key : String) :
    store.contains kind key = (store.find? kind key).isSome := by
  cases kind <;> simp [contains, find?, Register.contains]

/-- What is found under a kind is of this kind. -/
theorem kind_of_find? (found : store.find? kind key = some template) : template.kind = kind := by
  cases kind <;>
    (obtain ⟨own, -, rfl⟩ := Option.map_eq_some_iff.mp found; rfl)

/-- What is found under a key bears this key. -/
theorem key_of_find? (found : store.find? kind key = some template) : template.key = key := by
  cases kind <;> obtain ⟨own, ownFound, rfl⟩ := Option.map_eq_some_iff.mp found
  · exact store.containers.keyOf_of_find? ownFound
  · exact store.pods.keyOf_of_find? ownFound
  · exact store.vnodes.keyOf_of_find? ownFound
  · exact store.nodes.keyOf_of_find? ownFound
  · exact store.services.keyOf_of_find? ownFound

end Store

end ClusterTopology
