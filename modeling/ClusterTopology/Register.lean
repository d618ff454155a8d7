/-!
Registers: entries under keys, held in two parts. The order lists the keys as they first
came, and what stands under a key is told by the entries, which have no order of their own.
Nothing but the way they are used keeps the two together. They are in step if the order lists
no key twice and lists exactly the keys that have an entry, and an insertion keeps them so
(`InStep.insert`).
-/

namespace ClusterTopology

/-- Keys in an order, and entries under keys. Of the entries only look-ups are seen, so they
are the function that tells them. -/
@[ext]
structure Register (α : Type) where
  order : List String := []
  entries : String → Option α := fun _ => none

namespace Register

variable {α : Type}

/-- The entry under a key. -/
def find? (register : Register α) (key : String) : Option α := register.entries key

/-- Whether there is an entry under a key. -/
def contains (register : Register α) (key : String) : Bool := (register.find? key).isSome

/-- The entries, as the order lists their keys. A key without an entry is passed over. -/
def values (register : Register α) : List α := register.order.filterMap register.find?

/-- How many keys the order lists. -/
def size (register : Register α) : Nat := register.order.length

/-- Put an entry under a key, in place of the one that stands there. If none did, the key
goes to the end of the order. -/
def insert (register : Register α) (key : String) (value : α) : Register α where
  order := if register.contains key then register.order else register.order ++ [key]
  entries := fun other => if other = key then some value else register.entries other

/-- An insertion changes the look-up of its own key only. -/
theorem find?_insert (register : Register α) (key wanted : String) (value : α) :
    (register.insert key value).find? wanted =
      if wanted = key then some value else register.find? wanted := rfl

/-- The order and the entries are in step. -/
structure InStep (register : Register α) : Prop where
  nodup : register.order.Nodup
  mem_order_iff : ∀ key, key ∈ register.order ↔ register.contains key = true

theorem InStep.empty : InStep ({} : Register α) where
  nodup := List.nodup_nil
  mem_order_iff := fun _ => ⟨nofun, nofun⟩

/-- An insertion keeps the order and the entries in step: it lists its key if it gives it the
first entry, and otherwise the key is listed already. -/
theorem InStep.insert {register : Register α} (inStep : register.InStep) (key : String)
    (value : α) : (register.insert key value).InStep := by
  have entered : ∀ other, (register.insert key value).contains other = true ↔
      other = key ∨ register.contains other = true := by
    intro other
    rw [contains, find?_insert]
    split <;> simp_all [contains]
  by_cases known : register.contains key = true
  · have order : (register.insert key value).order = register.order := if_pos known
    refine ⟨order ▸ inStep.nodup, fun other => ?_⟩
    rw [order, entered, inStep.mem_order_iff]
    constructor
    · exact Or.inr
    · rintro (rfl | there)
      · exact known
      · exact there
  · have order : (register.insert key value).order = register.order ++ [key] := if_neg known
    refine ⟨?_, fun other => ?_⟩
    · rw [order]
      refine List.nodup_append.mpr ⟨inStep.nodup, by simp, ?_⟩
      intro other listed last isLast same
      rw [same, List.mem_singleton.mp isLast, inStep.mem_order_iff] at listed
      exact known listed
    · rw [order, entered, List.mem_append, List.mem_singleton, inStep.mem_order_iff, or_comm]

end Register

end ClusterTopology
