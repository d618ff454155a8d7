import ClusterTopology.Proofs.Allocation.Draw
import ClusterTopology.Proofs.Allocation.Identifier
import ClusterTopology.Proofs.Allocation.Odometer

/-!
What the allocators issue, and that they never issue it twice.

`Issues before log after` says that some sequence of draws leads from `before` to
`after` and that its draws issued `log`. `Context.Spent` is the invariant: an id is
spent when its number is not beyond the last one of its key, an address when it is
not beyond the last one of its kind. A draw issues what was not spent, spends it
and leaves spent what was. Hence `Issues.nodup`, from any state whatever.
-/

namespace ClusterTopology

/-- An id or an address issued for a kind. -/
inductive Issue where
  | id (kind : Kind) (text : String)
  | address (kind : Kind) (address : Address)
  deriving DecidableEq, Repr

/-- What draws issue on their way from one state of the allocators to another. -/
inductive Issues : Context → List Issue → Context → Prop where
  | none (context : Context) : Issues context [] context
  | id {kind : Kind} {key text : String} {before middle after : Context} {log : List Issue} :
      drawId kind key before = .ok text middle → Issues middle log after →
      Issues before (.id kind text :: log) after
  | address {kind : Kind} {key : String} {address : Address} {before middle after : Context}
      {log : List Issue} :
      drawAddress kind key before = .ok address middle → Issues middle log after →
      Issues before (.address kind address :: log) after

namespace Issues

theorem append {before middle after : Context} {log log' : List Issue}
    (first : Issues before log middle) (second : Issues middle log' after) :
    Issues before (log ++ log') after := by
  induction first with
  | none context => exact second
  | id drawn _ ih => exact .id drawn (ih second)
  | address drawn _ ih => exact .address drawn (ih second)

end Issues

/-! ### What is spent -/

/-- An id is spent when its number is not beyond the last one of its key, an address
when it is not beyond the last one of its kind. -/
def Context.Spent (context : Context) : Issue → Prop
  | .id kind text => ∃ ids key number, context.ids? kind = some ids ∧
      text = IdAllocator.idOf key number ∧ number ≤ ids.lastNumber key
  | .address kind address => ∃ last, context.lastAddress? kind = some last ∧
      address.value ≤ last.value

section Steps

variable {before after : Context} {kind : Kind} {key id : String} {address : Address}

/-- An id that is drawn has not been spent. -/
theorem IdDrawn.not_spent (drawn : IdDrawn before kind key id after) :
    ¬ before.Spent (.id kind id) := by
  rintro ⟨ids, other, number, found, same, reached⟩
  obtain ⟨own, ownFound, rfl, -⟩ := drawn.issue
  obtain rfl : own = ids := by simpa [ownFound] using found
  rw [IdAllocator.id_allocate] at same
  obtain ⟨rfl, rfl⟩ := IdAllocator.idOf_injective same
  omega

/-- An id is spent once it is drawn. -/
theorem IdDrawn.spent (drawn : IdDrawn before kind key id after) :
    after.Spent (.id kind id) := by
  obtain ⟨ids, -, rfl, found⟩ := drawn.issue
  exact ⟨_, key, _, found, IdAllocator.id_allocate ids key,
    Nat.le_of_eq (ids.lastNumber_allocate key).1.symm⟩

/-- Drawing an id leaves spent what is spent. -/
theorem IdDrawn.spent_of_spent (drawn : IdDrawn before kind key id after) {issue : Issue}
    (spent : before.Spent issue) : after.Spent issue := by
  cases issue with
  | address other address =>
      obtain ⟨last, found, reached⟩ := spent
      exact ⟨last, (drawn.lastAddress other).trans found, reached⟩
  | id other text =>
      obtain ⟨ids, otherKey, number, found, rfl, reached⟩ := spent
      by_cases same : other = kind
      · subst same
        obtain ⟨own, ownFound, -, afterFound⟩ := drawn.issue
        obtain rfl : own = ids := by simpa [ownFound] using found
        exact ⟨_, otherKey, number, afterFound, rfl,
          Nat.le_trans reached ((own.lastNumber_allocate key).2 otherKey)⟩
      · exact ⟨ids, otherKey, number, (drawn.others other same).trans found, rfl, reached⟩

/-- An address that is drawn has not been spent. -/
theorem AddressDrawn.not_spent (drawn : AddressDrawn before kind key address after) :
    ¬ before.Spent (.address kind address) := by
  rintro ⟨last, found, reached⟩
  obtain ⟨own, ownFound, step, -⟩ := drawn.next
  obtain rfl : own = last := by simpa [ownFound] using found
  exact absurd (Address.value_lt_of_next? step) (Nat.not_lt.mpr reached)

/-- An address is spent once it is drawn. -/
theorem AddressDrawn.spent (drawn : AddressDrawn before kind key address after) :
    after.Spent (.address kind address) := by
  obtain ⟨-, -, -, found⟩ := drawn.next
  exact ⟨address, found, Nat.le_refl _⟩

/-- Drawing an address leaves spent what is spent. -/
theorem AddressDrawn.spent_of_spent (drawn : AddressDrawn before kind key address after)
    {issue : Issue} (spent : before.Spent issue) : after.Spent issue := by
  cases issue with
  | id other text =>
      obtain ⟨ids, otherKey, number, found, rfl, reached⟩ := spent
      exact ⟨ids, otherKey, number, (drawn.ids other).trans found, rfl, reached⟩
  | address other earlier =>
      obtain ⟨last, found, reached⟩ := spent
      by_cases same : other = kind
      · subst same
        obtain ⟨own, ownFound, step, afterFound⟩ := drawn.next
        obtain rfl : own = last := by simpa [ownFound] using found
        exact ⟨address, afterFound,
          Nat.le_trans reached (Nat.le_of_lt (Address.value_lt_of_next? step))⟩
      · exact ⟨last, (drawn.lastAddress_of_ne same).trans found, reached⟩

end Steps

/-! ### Nothing is issued twice -/

namespace Issues

variable {before after : Context} {log : List Issue}

/-- Nothing that is issued has been spent before. -/
theorem not_spent (issues : Issues before log after) :
    ∀ issue ∈ log, ¬ before.Spent issue := by
  induction issues with
  | none context => simp
  | id drawn _ ih =>
      intro issue member
      rcases List.mem_cons.mp member with rfl | member
      · exact (drawId_ok drawn).not_spent
      · exact fun spent => ih issue member ((drawId_ok drawn).spent_of_spent spent)
  | address drawn _ ih =>
      intro issue member
      rcases List.mem_cons.mp member with rfl | member
      · exact (drawAddress_ok drawn).not_spent
      · exact fun spent => ih issue member ((drawAddress_ok drawn).spent_of_spent spent)

/-- Whatever the state before and whatever is drawn, no id and no address of a kind is
issued twice. -/
theorem nodup (issues : Issues before log after) : log.Nodup := by
  induction issues with
  | none context => exact List.nodup_nil
  | id drawn rest ih =>
      refine List.nodup_cons.mpr ⟨fun again => ?_, ih⟩
      exact rest.not_spent _ again (drawId_ok drawn).spent
  | address drawn rest ih =>
      refine List.nodup_cons.mpr ⟨fun again => ?_, ih⟩
      exact rest.not_spent _ again (drawAddress_ok drawn).spent

end Issues

end ClusterTopology
