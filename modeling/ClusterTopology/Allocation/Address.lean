import ClusterTopology.Error

/-!
Issuing addresses. An allocator starts from a seed, which it never issues, and
follows the odometer. When the odometer ends the allocator refuses and stays as
it is, so that every later call is refused too.

The count of addresses issued is a natural number. It begins at zero and grows by one
with each address, and there are fewer than 2 ^ 32 addresses, so a machine word would
hold it as well.
-/

namespace ClusterTopology

/-- Issues the addresses of one kind. -/
structure AddressAllocator where
  kind : Kind
  /-- The address issued last, or the seed before the first. -/
  last : Address
  issued : Nat := 0
  deriving DecidableEq, Repr

namespace AddressAllocator

/-- Issue the next address. The key names the template it is for, in case there
is none. -/
def allocate (addresses : AddressAllocator) (key : String) :
    Except Error (Address × AddressAllocator) :=
  match addresses.last.next? with
  | some next => .ok (next, { addresses with last := next, issued := addresses.issued + 1 })
  | none => .error (.addressesExhausted addresses.kind key addresses.last)

/-- A refusal is the end of the odometer and names kind, key and last address. -/
theorem allocate_eq_error_iff {addresses : AddressAllocator} {key : String} {error : Error} :
    addresses.allocate key = .error error ↔
      addresses.last.next? = none ∧
        error = .addressesExhausted addresses.kind key addresses.last := by
  unfold allocate
  cases addresses.last.next? <;> simp [eq_comm]

end AddressAllocator

end ClusterTopology
