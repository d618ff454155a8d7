import ClusterTopology.Proofs.Allocation.Odometer

/-!
How far the odometer goes.

The octets of an address are read as the digits of a number in base 253, the `rank` of
the address. A step raises the rank by one (`rank_of_next?`), and the odometer ends at
the greatest rank there is (`next?_eq_none_iff`), so the number of steps that are left
is known in advance: it is what remains (`remaining_of_successor?`). Octets outside the range of the odometer
need no care: one below it is a negative digit, and one above it the greatest.
-/

namespace ClusterTopology.Address

/-- How many values an octet runs through. -/
def radix : Int := 253

/-- An octet as a digit. Digits count from the least octet; what is above the greatest
octet counts as the greatest. -/
def digit (octet : UInt8) : Int := (min octet.toNat greatestOctet.toNat : Nat) - 2

/-- The address as a number in base 253, the first octet leading. -/
def rank (address : Address) : Int :=
  ((digit address.first * radix + digit address.second) * radix + digit address.third) * radix +
    digit address.fourth

/-- How many addresses follow this one. -/
def remaining (address : Address) : Int := radix * radix * radix * radix - 1 - address.rank

/-! ### Digits -/

theorem digit_succ {octet : UInt8} (below : octet < greatestOctet) :
    digit (octet + 1) = digit octet + 1 := by
  have bound : octet.toNat < 254 := UInt8.lt_iff_toNat_lt.mp below
  have greatest : greatestOctet.toNat = 254 := rfl
  rw [digit, digit, toNat_succ_of_lt below, greatest]
  omega

/-- An octet that carries is the greatest digit. -/
theorem digit_of_not_lt {octet : UInt8} (carries : ¬ octet < greatestOctet) :
    digit octet = 252 := by
  have bound : ¬ octet.toNat < 254 := fun below => carries (UInt8.lt_iff_toNat_lt.mpr below)
  have greatest : greatestOctet.toNat = 254 := rfl
  rw [digit, greatest]
  omega

theorem digit_le (octet : UInt8) : digit octet ≤ 252 := by
  have greatest : greatestOctet.toNat = 254 := rfl
  rw [digit, greatest]
  omega

theorem digit_leastOctet : digit leastOctet = 0 := by decide

/-! ### Steps -/

/-- A step raises the rank by one, however many octets carry. -/
theorem rank_of_next? {address next : Address} (step : address.next? = some next) :
    next.rank = address.rank + 1 := by
  obtain ⟨a, b, c, d⟩ := address
  rcases next?_cases step with ⟨below, rfl⟩ | ⟨fourth, below, rfl⟩ |
      ⟨fourth, third, below, rfl⟩ | ⟨fourth, third, second, below, rfl⟩
  · simp only [rank, radix, digit_succ below]
    omega
  · simp only [rank, radix, digit_succ below, digit_leastOctet, digit_of_not_lt fourth]
    omega
  · simp only [rank, radix, digit_succ below, digit_leastOctet, digit_of_not_lt fourth,
      digit_of_not_lt third]
    omega
  · simp only [rank, radix, digit_succ below, digit_leastOctet, digit_of_not_lt fourth,
      digit_of_not_lt third, digit_of_not_lt second]
    omega

/-- A step uses up one of the addresses that remain. -/
theorem remaining_of_next? {address next : Address} (step : address.next? = some next) :
    next.remaining = address.remaining - 1 := by
  rw [remaining, remaining, rank_of_next? step]
  omega

theorem remaining_nonneg (address : Address) : 0 ≤ address.remaining := by
  have first := digit_le address.first
  have second := digit_le address.second
  have third := digit_le address.third
  have fourth := digit_le address.fourth
  simp only [remaining, rank, radix]
  omega

/-- The odometer ends when every octet carries. -/
theorem carries_of_next?_eq_none {a b c d : UInt8} (ended : next? ⟨a, b, c, d⟩ = none) :
    ¬ a < greatestOctet ∧ ¬ b < greatestOctet ∧ ¬ c < greatestOctet ∧ ¬ d < greatestOctet := by
  by_cases fourth : d < greatestOctet
  · simp [next?, fourth] at ended
  by_cases third : c < greatestOctet
  · simp [next?, fourth, third] at ended
  by_cases second : b < greatestOctet
  · simp [next?, fourth, third, second] at ended
  by_cases first : a < greatestOctet
  · simp [next?, fourth, third, second, first] at ended
  exact ⟨first, second, third, fourth⟩

/-- The odometer ends exactly at the greatest rank. -/
theorem next?_eq_none_iff {address : Address} :
    address.next? = none ↔ address.remaining = 0 := by
  constructor
  · intro ended
    obtain ⟨a, b, c, d⟩ := address
    obtain ⟨first, second, third, fourth⟩ := carries_of_next?_eq_none ended
    simp only [remaining, rank, radix, digit_of_not_lt first, digit_of_not_lt second,
      digit_of_not_lt third, digit_of_not_lt fourth]
    omega
  · intro used
    cases step : address.next? with
    | none => rfl
    | some next =>
        have left := remaining_nonneg next
        rw [remaining_of_next? step] at left
        omega

/-! ### Any number of steps -/

/-- So many steps raise the rank by as much. -/
theorem rank_of_successor? {address other : Address} {steps : Nat}
    (reached : address.successor? steps = some other) : other.rank = address.rank + steps := by
  induction steps generalizing other with
  | zero =>
      obtain rfl := Option.some.inj reached
      omega
  | succ steps ih =>
      obtain ⟨middle, before, step⟩ := Option.bind_eq_some_iff.mp reached
      rw [rank_of_next? step, ih before]
      omega

/-- So many steps use up as many of the addresses that remain. -/
theorem remaining_of_successor? {address other : Address} {steps : Nat}
    (reached : address.successor? steps = some other) :
    other.remaining = address.remaining - steps := by
  rw [remaining, remaining, rank_of_successor? reached]
  omega

end ClusterTopology.Address
