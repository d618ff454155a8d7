import Mathlib.Data.List.Chain
import ClusterTopology.Proofs.Allocation.Rank

/-!
Addresses that follow on one another.

Whatever an allocator issues, each address is one step of the odometer on from the one
before it, and the first one from the seed: `Consecutive`. From this alone, their ranks run
on from that of the seed without a gap (`Consecutive.map_rank`), they only go upwards
(`Consecutive.pairwise_value`), and an octet outside the range of the odometer is one that
the seed had there (`Consecutive.keptFrom`). Where all octets are in the range the rank
tells the address: `eq_of_rank_eq`.
-/

namespace ClusterTopology.Address

/-- Each of these addresses is one step on from the one before it, the first one from
`start`. -/
def Consecutive (start : Address) (addresses : List Address) : Prop :=
  (start :: addresses).IsChain fun address next => address.next? = some next

theorem consecutive_nil (start : Address) : Consecutive start [] := List.isChain_singleton start

theorem consecutive_cons_iff {start next : Address} {addresses : List Address} :
    Consecutive start (next :: addresses) ↔
      start.next? = some next ∧ Consecutive next addresses :=
  List.isChain_cons_cons

/-- An octet that the odometer stops at. -/
def InRange (octet : UInt8) : Prop := leastOctet ≤ octet ∧ octet ≤ greatestOctet

instance (octet : UInt8) : Decidable (InRange octet) := inferInstanceAs (Decidable (_ ∧ _))

/-- An address all of whose octets are in the range of the odometer. -/
def Regular (address : Address) : Prop := ∀ octet ∈ address.octets, InRange octet

instance (address : Address) : Decidable address.Regular :=
  List.decidableBAll InRange address.octets

/-! ### One step -/

/-- A step raises one octet, leaves those before it and puts those behind it back to the
least. -/
theorem octets_of_next? {address next : Address} (step : address.next? = some next) :
    ∃ front raised back, address.octets = front ++ raised :: back ∧
      raised < greatestOctet ∧
      next.octets = front ++ (raised + 1) :: List.replicate back.length leastOctet := by
  obtain ⟨a, b, c, d⟩ := address
  rcases next?_cases step with ⟨below, rfl⟩ | ⟨-, below, rfl⟩ | ⟨-, -, below, rfl⟩ |
      ⟨-, -, -, below, rfl⟩
  · exact ⟨[a, b, c], d, [], rfl, below, rfl⟩
  · exact ⟨[a, b], c, [d], rfl, below, rfl⟩
  · exact ⟨[a], b, [c, d], rfl, below, rfl⟩
  · exact ⟨[], a, [b, c, d], rfl, below, rfl⟩

/-- An octet that has been raised is in the range unless it was zero. -/
theorem inRange_succ {octet : UInt8} (below : octet < greatestOctet) (positive : octet ≠ 0) :
    InRange (octet + 1) := by
  have bound : octet.toNat < 254 := UInt8.lt_iff_toNat_lt.mp below
  have nonzero : octet.toNat ≠ 0 := fun zero => positive (UInt8.toNat_inj.mp zero)
  constructor
  · have least : leastOctet.toNat = 2 := rfl
    rw [UInt8.le_iff_toNat_le, toNat_succ_of_lt below, least]
    omega
  · have greatest : greatestOctet.toNat = 254 := rfl
    rw [UInt8.le_iff_toNat_le, toNat_succ_of_lt below, greatest]
    omega

theorem inRange_leastOctet : InRange leastOctet := by decide

/-- An octet outside the range is kept from the seed: up to it nothing has been carried into,
so that the octets before it are those of the seed, and it is itself that of the seed, or
one where the seed has zero. -/
def KeptFrom (seed address : Address) : Prop :=
  ∀ (place : Nat) (octet : UInt8), address.octets[place]? = some octet → ¬ InRange octet →
    address.octets.take place = seed.octets.take place ∧
      (seed.octets[place]? = some octet ∨ seed.octets[place]? = some 0 ∧ octet = 1)

theorem KeptFrom.refl (seed : Address) : KeptFrom seed seed :=
  fun _ _ found _ => ⟨rfl, Or.inl found⟩

theorem KeptFrom.step {seed address next : Address} (kept : KeptFrom seed address)
    (step : address.next? = some next) : KeptFrom seed next := by
  obtain ⟨front, raised, back, split, below, moved⟩ := octets_of_next? step
  intro place octet found outside
  rw [moved] at found ⊢
  rcases Nat.lt_trichotomy place front.length with before | rfl | behind
  · -- Nothing has changed up to here.
    have same : address.octets[place]? = some octet := by
      rwa [split, List.getElem?_append_left before, ← List.getElem?_append_left before]
    obtain ⟨prior, own⟩ := kept place octet same outside
    rw [split, List.take_append_of_le_length (Nat.le_of_lt before)] at prior
    rw [List.take_append_of_le_length (Nat.le_of_lt before)]
    exact ⟨prior, own⟩
  · -- The octet that is raised can only have been zero, which is outside the range itself.
    obtain rfl : raised + 1 = octet := by simpa using found
    obtain rfl : raised = 0 := by
      by_contra positive
      exact outside (inRange_succ below positive)
    obtain ⟨prior, own⟩ := kept front.length 0 (by simp [split]) (by decide)
    rw [split, List.take_left] at prior
    rw [List.take_left]
    have zero : seed.octets[front.length]? = some 0 := own.elim id And.left
    exact ⟨prior, Or.inr ⟨zero, rfl⟩⟩
  · -- Behind it there are only least octets.
    obtain ⟨gap, rfl⟩ := Nat.exists_eq_add_of_lt behind
    rw [Nat.add_assoc, List.getElem?_append_right (Nat.le_add_right _ _),
      Nat.add_sub_cancel_left, List.getElem?_cons_succ] at found
    obtain rfl := List.eq_of_mem_replicate (List.mem_of_getElem? found)
    exact absurd inRange_leastOctet outside

/-- Where the octets of the seed are in the range there is nothing to keep. -/
theorem KeptFrom.regular {seed address : Address} (kept : KeptFrom seed address)
    (regular : seed.Regular) : address.Regular := by
  intro octet member
  by_contra outside
  obtain ⟨place, found⟩ := List.mem_iff_getElem?.mp member
  obtain ⟨-, own | ⟨zero, -⟩⟩ := kept place octet found outside
  · exact outside (regular octet (List.mem_of_getElem? own))
  · exact absurd (regular 0 (List.mem_of_getElem? zero)) (by decide)

/-! ### Any number of steps -/

namespace Consecutive

variable {start : Address} {addresses : List Address}

/-- The ranks run on without a gap. -/
theorem map_rank (consecutive : Consecutive start addresses) :
    addresses.map rank =
      (List.range addresses.length).map fun place => start.rank + (place + 1 : Nat) := by
  induction addresses generalizing start with
  | nil => rfl
  | cons next addresses ih =>
      obtain ⟨step, rest⟩ := consecutive_cons_iff.mp consecutive
      rw [List.map_cons, ih rest, rank_of_next? step, List.length_cons, List.range_succ_eq_map,
        List.map_cons, List.map_map]
      congr 1
      refine List.map_congr_left fun place _ => ?_
      simp only [Function.comp_apply]
      omega

/-- The last address is as far on as there are addresses. -/
theorem rank_getLastD (consecutive : Consecutive start addresses) :
    (addresses.getLastD start).rank = start.rank + addresses.length := by
  induction addresses generalizing start with
  | nil => simp
  | cons next addresses ih =>
      obtain ⟨step, rest⟩ := consecutive_cons_iff.mp consecutive
      rw [List.getLastD_cons, ih rest, rank_of_next? step, List.length_cons]
      omega

/-- What ranks there are. -/
theorem exists_rank_iff (consecutive : Consecutive start addresses) {wanted : Int} :
    (∃ address ∈ addresses, address.rank = wanted) ↔
      start.rank < wanted ∧ wanted ≤ start.rank + addresses.length := by
  rw [← List.mem_map, consecutive.map_rank, List.mem_map]
  constructor
  · rintro ⟨place, inside, rfl⟩
    have bound := List.mem_range.mp inside
    omega
  · rintro ⟨above, within⟩
    refine ⟨(wanted - start.rank - 1).toNat, List.mem_range.mpr ?_, ?_⟩ <;> omega

/-- The addresses go upwards, from `start` on. -/
theorem pairwise_value (consecutive : Consecutive start addresses) :
    ((start :: addresses).map value).Pairwise (· < ·) := by
  have upwards : ((start :: addresses).map value).IsChain (· < ·) :=
    (List.isChain_map value).mpr (consecutive.imp fun _ _ step => value_lt_of_next? step)
  exact upwards.pairwise

/-- No address comes twice, and `start` does not come again. -/
theorem nodup (consecutive : Consecutive start addresses) : (start :: addresses).Nodup := by
  refine List.Pairwise.of_map value (fun address later above => ?_) consecutive.pairwise_value
  rintro rfl
  exact Nat.lt_irrefl _ above

/-- Octets outside the range go on being kept from the seed. -/
theorem keptFrom {seed : Address} (consecutive : Consecutive start addresses)
    (kept : KeptFrom seed start) : ∀ address ∈ addresses, KeptFrom seed address := by
  induction addresses generalizing start with
  | nil => simp
  | cons next addresses ih =>
      obtain ⟨step, rest⟩ := consecutive_cons_iff.mp consecutive
      exact List.forall_mem_cons.mpr ⟨kept.step step, ih rest (kept.step step)⟩

/-- What follows on a regular address is regular. -/
theorem regular (consecutive : Consecutive start addresses) (regular : start.Regular) :
    ∀ address ∈ addresses, address.Regular :=
  fun address member => (consecutive.keptFrom (.refl start) address member).regular regular

end Consecutive

/-! ### Rank and address -/

/-- In the range a digit tells its octet. -/
theorem digit_of_inRange {octet : UInt8} (inside : InRange octet) :
    digit octet = octet.toNat - 2 ∧ 0 ≤ digit octet := by
  have least : 2 ≤ octet.toNat := UInt8.le_iff_toNat_le.mp inside.1
  have most : octet.toNat ≤ 254 := UInt8.le_iff_toNat_le.mp inside.2
  have greatest : greatestOctet.toNat = 254 := rfl
  rw [digit, greatest]
  omega

theorem octet_eq_of_digit_eq {octet other : UInt8} (inside : InRange octet)
    (otherInside : InRange other) (same : digit octet = digit other) : octet = other := by
  have own := (digit_of_inRange inside).1
  have others := (digit_of_inRange otherInside).1
  exact UInt8.toNat_inj.mp (by omega)

/-- The leading digits and the last one are told apart. -/
theorem digits_eq {high low high' low' : Int} (same : high * radix + low = high' * radix + low')
    (bounds : 0 ≤ low ∧ low ≤ 252) (bounds' : 0 ≤ low' ∧ low' ≤ 252) :
    high = high' ∧ low = low' := by
  rw [radix] at same
  omega

/-- A regular address is told by its rank. -/
theorem eq_of_rank_eq {address other : Address} (regular : address.Regular)
    (otherRegular : other.Regular) (same : address.rank = other.rank) : address = other := by
  obtain ⟨a, b, c, d⟩ := address
  obtain ⟨a', b', c', d'⟩ := other
  have bounds : ∀ {octet}, InRange octet → 0 ≤ digit octet ∧ digit octet ≤ 252 :=
    fun inside => ⟨(digit_of_inRange inside).2, digit_le _⟩
  simp only [Regular, octets, List.forall_mem_cons] at regular otherRegular
  obtain ⟨inA, inB, inC, inD, -⟩ := regular
  obtain ⟨inA', inB', inC', inD', -⟩ := otherRegular
  -- The digits are peeled off from the last to the first.
  obtain ⟨upper, fourth⟩ := digits_eq same (bounds inD) (bounds inD')
  obtain ⟨upper, third⟩ := digits_eq upper (bounds inC) (bounds inC')
  obtain ⟨first, second⟩ := digits_eq upper (bounds inB) (bounds inB')
  rw [octet_eq_of_digit_eq inA inA' first, octet_eq_of_digit_eq inB inB' second,
    octet_eq_of_digit_eq inC inC' third, octet_eq_of_digit_eq inD inD' fourth]

end ClusterTopology.Address
