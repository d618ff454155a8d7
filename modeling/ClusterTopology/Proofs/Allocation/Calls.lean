import Mathlib.Algebra.Order.Ring.Int
import ClusterTopology.Proofs.Allocation.Consecutive

/-!
The addresses of one allocator.

`callAll` makes calls in order and collects the answers. `call_cases` is what one call can
do, and `served_callAll` what any number of them does: the addresses issued follow on the
seed, as many as there are calls or as many as remain, and the allocator stands at the last
of them. So it is an exact odometer, which goes on refusing without a change once it has
come to its end (`callAll_odometer`), and its addresses go upwards and keep to the range of
octets wherever the seed does (`granted_upwards`).
-/

namespace ClusterTopology.AddressAllocator

/-- One call for a key: the answer, and the allocator after it. A refusal leaves the
allocator as it is. -/
def call (addresses : AddressAllocator) (key : String) :
    Except Error Address × AddressAllocator :=
  match addresses.allocate key with
  | .ok (address, after) => (.ok address, after)
  | .error error => (.error error, addresses)

/-- Calls for these keys in order: the answers, and the allocator after them. -/
def callAll (addresses : AddressAllocator) :
    List String → List (Except Error Address) × AddressAllocator
  | [] => ([], addresses)
  | key :: keys =>
    let (answer, middle) := addresses.call key
    let (answers, after) := callAll middle keys
    (answer :: answers, after)

/-- The addresses among answers. -/
def granted (answers : List (Except Error Address)) : List Address :=
  answers.filterMap Except.toOption

theorem granted_cons_ok (address : Address) (answers : List (Except Error Address)) :
    granted (.ok address :: answers) = address :: granted answers := rfl

theorem granted_cons_error (error : Error) (answers : List (Except Error Address)) :
    granted (.error error :: answers) = granted answers := rfl

/-! ### One call -/

/-- A call steps the odometer on and counts the step, or it is refused because the odometer
has come to its end. -/
theorem call_cases (addresses : AddressAllocator) (key : String) :
    (∃ address, addresses.last.next? = some address ∧ addresses.call key =
      (.ok address, { addresses with last := address, issued := addresses.issued + 1 })) ∨
    (addresses.last.remaining = 0 ∧ addresses.call key =
      (.error (.addressesExhausted addresses.kind key addresses.last), addresses)) := by
  unfold call allocate
  cases step : addresses.last.next? with
  | some address => exact Or.inl ⟨address, rfl, rfl⟩
  | none => exact Or.inr ⟨Address.next?_eq_none_iff.mp step, rfl⟩

/-- As long as an address remains a call is granted the one of the next rank. -/
theorem exists_call_ok {addresses : AddressAllocator} (left : 0 < addresses.last.remaining)
    (key : String) : ∃ address after, addresses.call key = (.ok address, after) ∧
      address.rank = addresses.last.rank + 1 := by
  rcases addresses.call_cases key with ⟨address, step, called⟩ | ⟨used, -⟩
  · exact ⟨address, _, called, Address.rank_of_next? step⟩
  · omega

/-- Once no address remains every call is refused and changes nothing. -/
theorem call_of_remaining_eq_zero {addresses : AddressAllocator}
    (used : addresses.last.remaining = 0) (key : String) :
    addresses.call key =
      (.error (.addressesExhausted addresses.kind key addresses.last), addresses) := by
  rcases addresses.call_cases key with ⟨address, step, -⟩ | ⟨-, refused⟩
  · rw [Address.next?_eq_none_iff.mpr used] at step
    cases step
  · exact refused

/-! ### Calls in order -/

/-- What calls do: so many of them, answered so, take an allocator from one state to
another. -/
structure Served (before : AddressAllocator) (calls : Nat)
    (answers : List (Except Error Address)) (after : AddressAllocator) : Prop where
  consecutive : Address.Consecutive before.last (granted answers)
  length_granted : ((granted answers).length : Int) = min (calls : Int) before.last.remaining
  kind_eq : after.kind = before.kind
  last_eq : after.last = (granted answers).getLastD before.last
  issued_eq : after.issued = before.issued + (granted answers).length

theorem served_callAll (before : AddressAllocator) (keys : List String) :
    Served before keys.length (before.callAll keys).1 (before.callAll keys).2 := by
  induction keys generalizing before with
  | nil =>
      have nonneg := Address.remaining_nonneg before.last
      exact ⟨Address.consecutive_nil _, (min_eq_left nonneg).symm, rfl, rfl, rfl⟩
  | cons key keys ih =>
      rw [List.length_cons]
      rcases before.call_cases key with ⟨address, step, called⟩ | ⟨used, called⟩
      · simp only [callAll, called]
        have rest := ih { before with last := address, issued := before.issued + 1 }
        have length := rest.length_granted
        have issued := rest.issued_eq
        have fewer := Address.remaining_of_next? step
        refine ⟨Address.consecutive_cons_iff.mpr ⟨step, rest.consecutive⟩, ?_, rest.kind_eq,
          ?_, ?_⟩
        · rw [granted_cons_ok, List.length_cons]
          dsimp only at length
          omega
        · rw [granted_cons_ok, List.getLastD_cons]
          exact rest.last_eq
        · rw [granted_cons_ok, List.length_cons, issued]
          dsimp only
          omega
      · simp only [callAll, called]
        have rest := ih before
        have length := rest.length_granted
        refine ⟨rest.consecutive, ?_, rest.kind_eq, rest.last_eq, rest.issued_eq⟩
        rw [granted_cons_error]
        omega

/-- Every address issued has raised the rank by one. -/
theorem Served.rank_eq {before after : AddressAllocator} {calls : Nat}
    {answers : List (Except Error Address)} (served : Served before calls answers after) :
    after.last.rank = before.last.rank + (granted answers).length := by
  rw [served.last_eq, served.consecutive.rank_getLastD]

/-! ### A fresh allocator -/

/-- An allocator is an exact odometer. Whatever calls have been made of it, the addresses
issued have the ranks that follow on that of the seed; there are as many of them as there
were calls, or as remain after the seed if these are fewer; and the allocator holds the last
of them, or the seed, and their number. The next call is granted the next rank as long as not
all have been issued. Every later one is refused with the kind of the allocator, the key of
the call and the last address, and changes nothing. -/
theorem callAll_odometer (kind : Kind) (seed : Address) (earlier : List String)
    (key : String) :
    let fresh : AddressAllocator := { kind, last := seed }
    let issued := granted (fresh.callAll earlier).1
    let now := (fresh.callAll earlier).2
    issued.map Address.rank =
        (List.range issued.length).map (fun place => seed.rank + (place + 1 : Nat)) ∧
      (issued.length : Int) = min (earlier.length : Int) seed.remaining ∧
      now.last = issued.getLastD seed ∧ now.issued = issued.length ∧
      ((earlier.length : Int) < seed.remaining →
        ∃ address after, now.call key = (.ok address, after) ∧
          address.rank = seed.rank + (earlier.length + 1 : Nat)) ∧
      (seed.remaining ≤ earlier.length →
        now.call key = (.error (.addressesExhausted kind key now.last), now)) := by
  intro fresh issued now
  have served : Served fresh earlier.length (fresh.callAll earlier).1 now :=
    served_callAll fresh earlier
  have length : (issued.length : Int) = min (earlier.length : Int) seed.remaining :=
    served.length_granted
  have counted : now.issued = issued.length := served.issued_eq.trans (Nat.zero_add _)
  have reached : now.last.rank = seed.rank + issued.length := served.rank_eq
  have left : now.last.remaining = seed.remaining - issued.length := by
    rw [Address.remaining, Address.remaining, reached]
    omega
  refine ⟨served.consecutive.map_rank, length, served.last_eq, counted, fun more => ?_,
    fun used => ?_⟩
  · have unspent : 0 < now.last.remaining := by omega
    obtain ⟨address, after, called, next⟩ := exists_call_ok unspent key
    exact ⟨address, after, called, by omega⟩
  · rw [call_of_remaining_eq_zero (by omega), served.kind_eq]

/-- One address remains after the seed, and is all that two calls are granted. -/
theorem callAll_odometer_last :
    let seed : Address := ⟨254, 254, 254, 253⟩
    let fresh : AddressAllocator := { kind := .node, last := seed }
    let now := (fresh.callAll ["rack"]).2
    (0 : Int) < seed.remaining ∧
      (∃ address after, fresh.call "rack" = (.ok address, after) ∧
        address.rank = seed.rank + 1) ∧
      seed.remaining ≤ 1 ∧
      now.call "shelf" =
        (.error (.addressesExhausted .node "shelf" ⟨254, 254, 254, 254⟩), now) := by
  intro seed fresh now
  have one : seed.remaining = 1 := by decide
  have more : (0 : Int) < seed.remaining := by omega
  have used : seed.remaining ≤ 1 := by omega
  obtain ⟨-, -, -, -, first, -⟩ := callAll_odometer .node seed [] "rack"
  obtain ⟨-, -, -, -, -, second⟩ := callAll_odometer .node seed ["rack"] "shelf"
  exact ⟨more, first more, used, second used⟩

/-- The addresses that an allocator issues go upwards from its seed, so that none comes twice
and the seed does not come at all. An octet outside the range is kept from the seed, and a
seed without one only yields addresses without one. -/
theorem granted_upwards (kind : Kind) (seed : Address) (keys : List String) :
    let fresh : AddressAllocator := { kind, last := seed }
    let issued := granted (fresh.callAll keys).1
    ((seed :: issued).map Address.value).Pairwise (· < ·) ∧ (seed :: issued).Nodup ∧
      (∀ address ∈ issued, Address.KeptFrom seed address) ∧
      (seed.Regular → ∀ address ∈ issued, address.Regular) := by
  intro fresh issued
  have consecutive : Address.Consecutive seed issued := (served_callAll fresh keys).consecutive
  exact ⟨consecutive.pairwise_value, consecutive.nodup, consecutive.keptFrom (.refl seed),
    consecutive.regular⟩

/-- A seed in the range, and one with a zero that is carried into. -/
theorem granted_upwards_carried :
    let seed : Address := ⟨10, 2, 254, 253⟩
    let low : Address := ⟨10, 0, 254, 253⟩
    let fresh : AddressAllocator := { kind := .vnode, last := seed }
    let lowest : AddressAllocator := { kind := .vnode, last := low }
    let keys := ["rack", "rack", "shelf"]
    seed.Regular ∧
      granted (fresh.callAll keys).1 = [⟨10, 2, 254, 254⟩, ⟨10, 3, 2, 2⟩, ⟨10, 3, 2, 3⟩] ∧
      (∀ address ∈ granted (fresh.callAll keys).1, address.Regular) ∧
      granted (lowest.callAll keys).1 = [⟨10, 0, 254, 254⟩, ⟨10, 1, 2, 2⟩, ⟨10, 1, 2, 3⟩] ∧
      ∀ address ∈ granted (lowest.callAll keys).1, Address.KeptFrom low address := by
  intro seed low fresh lowest keys
  have inside : seed.Regular := by decide
  obtain ⟨-, -, -, regular⟩ := granted_upwards .vnode seed keys
  obtain ⟨-, -, kept, -⟩ := granted_upwards .vnode low keys
  exact ⟨inside, rfl, regular inside, rfl, kept⟩

end ClusterTopology.AddressAllocator
