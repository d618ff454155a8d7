import ClusterTopology.Allocation.Address

/-!
The odometer as an order on addresses. `value_lt_of_next?`: a step leads to an
address that is greater as a number of thirty-two bits, so the odometer never
returns to an address. `successor?` is any number of steps at once.
-/

namespace ClusterTopology.Address

/-- The address as a number of thirty-two bits, the first octet leading. -/
def value (address : Address) : Nat :=
  ((address.first.toNat * 256 + address.second.toNat) * 256 + address.third.toNat) * 256 +
    address.fourth.toNat

/-- An octet below the greatest is raised without wrapping around. -/
theorem toNat_succ_of_lt {octet : UInt8} (below : octet < greatestOctet) :
    (octet + 1).toNat = octet.toNat + 1 := by
  have bound : octet.toNat < 254 := UInt8.lt_iff_toNat_lt.mp below
  rw [UInt8.toNat_add]
  exact Nat.mod_eq_of_lt (by simp; omega)

/-- The four steps there are, by the octet that is raised. Every octet to its right has
carried. -/
theorem next?_cases {a b c d : UInt8} {next : Address}
    (step : next? ⟨a, b, c, d⟩ = some next) :
    (d < greatestOctet ∧ next = ⟨a, b, c, d + 1⟩) ∨
    (¬ d < greatestOctet ∧ c < greatestOctet ∧ next = ⟨a, b, c + 1, leastOctet⟩) ∨
    (¬ d < greatestOctet ∧ ¬ c < greatestOctet ∧ b < greatestOctet ∧
      next = ⟨a, b + 1, leastOctet, leastOctet⟩) ∨
    (¬ d < greatestOctet ∧ ¬ c < greatestOctet ∧ ¬ b < greatestOctet ∧ a < greatestOctet ∧
      next = ⟨a + 1, leastOctet, leastOctet, leastOctet⟩) := by
  by_cases fourth : d < greatestOctet
  · simp_all [next?, eq_comm]
  by_cases third : c < greatestOctet
  · simp_all [next?, eq_comm]
  by_cases second : b < greatestOctet
  · simp_all [next?, eq_comm]
  by_cases first : a < greatestOctet
  · simp_all [next?, eq_comm]
  · simp [next?, fourth, third, second, first] at step

/-- A step leads upwards. -/
theorem value_lt_of_next? {address next : Address} (step : address.next? = some next) :
    address.value < next.value := by
  obtain ⟨a, b, c, d⟩ := address
  have boundB := b.toNat_lt
  have boundC := c.toNat_lt
  have boundD := d.toNat_lt
  rcases next?_cases step with ⟨below, rfl⟩ | ⟨-, below, rfl⟩ | ⟨-, -, below, rfl⟩ |
      ⟨-, -, -, below, rfl⟩
  all_goals
    simp only [value, toNat_succ_of_lt below]
    omega

/-- The address so many steps on, if the odometer goes that far. -/
def successor? (address : Address) : Nat → Option Address
  | 0 => some address
  | steps + 1 => (successor? address steps).bind next?

end ClusterTopology.Address
