import ClusterTopology.Catalog
import ClusterTopology.Settings.Basic

/-!
Identifiers: a template's key, a dash and a number. In shared numbering the
number counts all ids of the allocator, in numbering per key it counts the ids
of that key. `issued_allocate` and `issuedFor_allocate` say what issuing an id
does to the two counts.

The counts are natural numbers and not machine words. They begin at zero, nothing but
an allocation changes them, and an allocation adds one to each at most, so it would
take 2 ^ 64 allocations in a row to fill a word of 64 bits.
-/

namespace ClusterTopology

/-- Issues the ids of one kind. -/
structure IdAllocator where
  kind : Kind
  numbering : Numbering
  issued : Nat := 0
  perKey : Catalog Nat := .empty

namespace IdAllocator

/-- How many ids of a key have been numbered per key. -/
def issuedFor (ids : IdAllocator) (key : String) : Nat := (ids.perKey.find? key).getD 0

/-- The number of the next id of a key. -/
def nextNumber (ids : IdAllocator) (key : String) : Nat :=
  match ids.numbering with
  | .shared => ids.issued + 1
  | .perKey => ids.issuedFor key + 1

/-- The id of a key with a number. -/
def idOf (key : String) (number : Nat) : String := key ++ "-" ++ toString number

/-- Issue the next id of a key. -/
def allocate (ids : IdAllocator) (key : String) : String × IdAllocator :=
  (idOf key (ids.nextNumber key),
    { ids with
      issued := ids.issued + 1
      perKey := match ids.numbering with
        | .shared => ids.perKey
        | .perKey => ids.perKey.insert key (ids.issuedFor key + 1) })

/-- Every id issued is counted. -/
theorem issued_allocate (ids : IdAllocator) (key : String) :
    (ids.allocate key).2.issued = ids.issued + 1 := rfl

/-- In numbering per key an id raises the count of its own key only. -/
theorem issuedFor_allocate {ids : IdAllocator} (perKey : ids.numbering = .perKey)
    (key other : String) :
    (ids.allocate key).2.issuedFor other =
      if other = key then ids.issuedFor key + 1 else ids.issuedFor other := by
  simp only [allocate, issuedFor, perKey, Catalog.find?_insert]
  split <;> simp

end IdAllocator

end ClusterTopology
