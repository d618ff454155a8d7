import ClusterTopology.Allocation.Context

/-!
What one draw does to the allocators.

The six allocators are read by kind, `Context.ids?` and `Context.addresses?`.
`drawId_ok` and `drawAddress_ok` say everything that a draw changes: the allocator
of its own kind makes one step and the other five stay. `drawId_error` and
`drawAddress_error` say when a draw is refused, and that a refusal changes nothing.
Later modules reason from these four and open neither draw again.
-/

namespace ClusterTopology

/-! ### The allocators by kind -/

namespace Context

/-- The ids of a kind. Services have none. -/
def ids? (context : Context) : Kind → Option IdAllocator
  | .container => some context.containerIds
  | .pod => some context.podIds
  | .vnode => some context.vnodeIds
  | .node => some context.nodeIds
  | .service => none

/-- The addresses of a kind, if it is attached to the network. -/
def addresses? (context : Context) : Kind → Option AddressAllocator
  | .vnode => some context.vnodeAddresses
  | .node => some context.nodeAddresses
  | .container | .pod | .service => none

/-- How the ids of a kind are numbered. -/
def numbering (context : Context) (kind : Kind) : Numbering :=
  (context.ids? kind).elim .shared IdAllocator.numbering

/-- How many ids of a kind have been numbered for a key. -/
def issuedFor (context : Context) (kind : Kind) (key : String) : Nat :=
  (context.ids? kind).elim 0 fun ids => ids.issuedFor key

/-- The address a kind's allocator issued last, or its seed. -/
def lastAddress? (context : Context) (kind : Kind) : Option Address :=
  (context.addresses? kind).map AddressAllocator.last

theorem issued_eq_elim (context : Context) (kind : Kind) :
    context.issued kind = (context.ids? kind).elim 0 IdAllocator.issued := by
  cases kind <;> rfl

/-- A kind that is not attached to the network has no address. -/
theorem lastAddress?_eq_none {kind : Kind} (context : Context)
    (detached : ¬ kind.isNetworkAttached = true) : context.lastAddress? kind = none := by
  cases kind with
  | vnode | node => exact absurd rfl detached
  | container | pod | service => rfl

end Context

/-! ### Drawing an id -/

/-- What drawing an id changes: the ids of its kind. -/
structure IdDrawn (before : Context) (kind : Kind) (key id : String) (after : Context) :
    Prop where
  issue : ∃ ids, before.ids? kind = some ids ∧ id = (ids.allocate key).1 ∧
    after.ids? kind = some (ids.allocate key).2
  others : ∀ other, other ≠ kind → after.ids? other = before.ids? other
  addresses : ∀ other, after.addresses? other = before.addresses? other

theorem drawId_ok {kind : Kind} {key id : String} {before after : Context}
    (drawn : drawId kind key before = .ok id after) : IdDrawn before kind key id after := by
  cases kind
  case service => cases drawn
  all_goals
    cases drawn
    refine ⟨⟨_, rfl, rfl, rfl⟩, ?_, ?_⟩
    · intro other differs
      cases other <;> simp_all [Context.ids?]
    · intro other
      cases other <;> rfl

/-- Ids never run out: only services are refused one. -/
theorem drawId_error {kind : Kind} {key : String} {error : Error} {before after : Context}
    (refused : drawId kind key before = .error error after) :
    kind = .service ∧ after = before := by
  cases kind
  case service =>
    cases refused
    exact ⟨rfl, rfl⟩
  all_goals cases refused

/-! ### Drawing an address -/

/-- What drawing an address changes: the addresses of its kind. -/
structure AddressDrawn (before : Context) (kind : Kind) (key : String) (address : Address)
    (after : Context) : Prop where
  issue : ∃ addresses issued, before.addresses? kind = some addresses ∧
    addresses.allocate key = .ok (address, issued) ∧ after.addresses? kind = some issued
  others : ∀ other, other ≠ kind → after.addresses? other = before.addresses? other
  ids : ∀ other, after.ids? other = before.ids? other

theorem drawAddress_ok {kind : Kind} {key : String} {address : Address}
    {before after : Context} (drawn : drawAddress kind key before = .ok address after) :
    AddressDrawn before kind key address after := by
  unfold drawAddress at drawn
  cases kind
  case container | pod | service => cases drawn
  all_goals
    simp only at drawn
    split at drawn
    · rename_i issued step
      cases drawn
      refine ⟨⟨_, _, rfl, step, rfl⟩, ?_, ?_⟩
      · intro other differs
        cases other <;> simp_all [Context.addresses?]
      · intro other
        cases other <;> rfl
    · cases drawn

namespace AddressDrawn

variable {before after : Context} {kind : Kind} {key : String} {address : Address}

/-- The address drawn is the next one of its kind. -/
theorem next (drawn : AddressDrawn before kind key address after) :
    ∃ last, before.lastAddress? kind = some last ∧ last.next? = some address ∧
      after.lastAddress? kind = some address := by
  obtain ⟨addresses, issued, found, granted, afterFound⟩ := drawn.issue
  unfold AddressAllocator.allocate at granted
  split at granted
  · rename_i step
    cases granted
    exact ⟨_, by rw [Context.lastAddress?, found]; rfl, step,
      by rw [Context.lastAddress?, afterFound]; rfl⟩
  · cases granted

theorem lastAddress_of_ne (drawn : AddressDrawn before kind key address after) {other : Kind}
    (differs : other ≠ kind) : after.lastAddress? other = before.lastAddress? other := by
  rw [Context.lastAddress?, drawn.others other differs, Context.lastAddress?]

end AddressDrawn

theorem IdDrawn.lastAddress {before after : Context} {kind : Kind} {key id : String}
    (drawn : IdDrawn before kind key id after) (other : Kind) :
    after.lastAddress? other = before.lastAddress? other := by
  rw [Context.lastAddress?, drawn.addresses other, Context.lastAddress?]

/-- A refusal changes nothing, and a kind that is attached to the network is refused an
address only by its own allocator. -/
theorem drawAddress_error {kind : Kind} {key : String} {error : Error} {before after : Context}
    (refused : drawAddress kind key before = .error error after) :
    after = before ∧ (kind.isNetworkAttached = true →
      ∃ addresses, before.addresses? kind = some addresses ∧
        addresses.allocate key = .error error) := by
  unfold drawAddress at refused
  cases kind
  case container | pod | service =>
    cases refused
    exact ⟨rfl, fun attached => by cases attached⟩
  all_goals
    simp only at refused
    split at refused
    · cases refused
    · rename_i step
      cases refused
      exact ⟨rfl, fun _ => ⟨_, rfl, step⟩⟩

end ClusterTopology
