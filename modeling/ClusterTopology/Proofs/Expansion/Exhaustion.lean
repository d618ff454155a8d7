import ClusterTopology.Proofs.Allocation.Rank
import ClusterTopology.Proofs.Expansion.Numbering
import ClusterTopology.Proofs.Expansion.Session
import ClusterTopology.Proofs.Unfolding.Demand

/-!
When the addresses run out.

An expansion comes to its end exactly when both kinds that are attached to the network
have enough addresses left for what the store asks of them. Otherwise it ends at the
first entry for which no address is left, and says which entry that is and which address
was the last: `expand_verdict`. Both follow from one account of a run of `emitAll`: how
many entries of a kind it has emitted is how far the odometer of the kind has gone.

An allocator names its own kind when it refuses an address, so the kind in a failure is
right only where every allocator bears the kind that it issues for. Fresh allocators do,
and whatever is drawn from them they go on doing so (`labelled_serveAll`).
-/

namespace ClusterTopology

/-! ### Allocators and their kinds -/

namespace Context

/-- Every allocator of addresses bears the kind that it issues for. -/
def Labelled (context : Context) : Prop :=
  ∀ kind addresses, context.addresses? kind = some addresses → addresses.kind = kind

theorem labelled_fresh (numbering : Numbering) (vnodeSeed nodeSeed : Address) :
    (fresh numbering vnodeSeed nodeSeed).Labelled := by
  intro kind addresses found
  cases kind with
  | container | pod | service => cases found
  | vnode | node =>
      cases found
      rfl

/-- How many addresses the allocator of a kind can still issue. -/
def remaining (context : Context) (kind : Kind) : Int :=
  (context.lastAddress? kind).elim 0 Address.remaining

theorem exists_lastAddress? (context : Context) {kind : Kind}
    (attached : kind.isNetworkAttached = true) :
    ∃ last, context.lastAddress? kind = some last := by
  cases kind with
  | container | pod | service => cases attached
  | vnode | node => exact ⟨_, rfl⟩

theorem remaining_nonneg (context : Context) (kind : Kind) : 0 ≤ context.remaining kind := by
  rw [remaining]
  cases context.lastAddress? kind with
  | none => exact Int.le_refl 0
  | some last => exact last.remaining_nonneg

end Context

theorem IdDrawn.labelled {before after : Context} {kind : Kind} {key id : String}
    (drawn : IdDrawn before kind key id after) (labelled : before.Labelled) :
    after.Labelled := by
  intro other addresses found
  rw [drawn.addresses] at found
  exact labelled other addresses found

theorem AddressDrawn.labelled {before after : Context} {kind : Kind} {key : String}
    {address : Address} (drawn : AddressDrawn before kind key address after)
    (labelled : before.Labelled) : after.Labelled := by
  intro other addresses found
  by_cases same : other = kind
  · subst same
    obtain ⟨own, issued, ownFound, granted, afterFound⟩ := drawn.issue
    obtain rfl : issued = addresses := Option.some.inj (afterFound.symm.trans found)
    unfold AddressAllocator.allocate at granted
    split at granted
    · cases granted
      exact labelled other own ownFound
    · cases granted
  · rw [drawn.others other same] at found
    exact labelled other addresses found

/-- Whatever is drawn, every allocator goes on bearing the kind that it issues for. -/
theorem Issues.labelled {before after : Context} {log : List Issue}
    (issues : Issues before log after) (labelled : before.Labelled) : after.Labelled := by
  induction issues with
  | none context => exact labelled
  | id drawn _ ih => exact ih ((drawId_ok drawn).labelled labelled)
  | address drawn _ ih => exact ih ((drawAddress_ok drawn).labelled labelled)

/-- The allocators of a session bear the kinds that they issue for, at any time. -/
theorem labelled_serveAll (requests : List Request) (numbering : Numbering)
    (vnodeSeed nodeSeed : Address) :
    (serveAll requests (.fresh numbering vnodeSeed nodeSeed)).2.Labelled := by
  obtain ⟨log, issues, -⟩ := serveAll_issues requests (.fresh numbering vnodeSeed nodeSeed)
  exact issues.labelled (Context.labelled_fresh numbering vnodeSeed nodeSeed)

/-! ### Running out -/

/-- An entry is refused an address when the odometer of its kind has come to its end. -/
theorem Entry.emit_error_ended {entry : Entry} {error : Error} {before after : Context}
    (refused : entry.emit before = .error error after) :
    entry.kind.isNetworkAttached = true ∧ ∃ addresses,
      before.addresses? entry.kind = some addresses ∧
        after.addresses? entry.kind = some addresses ∧ addresses.last.remaining = 0 ∧
        error = .addressesExhausted addresses.kind entry.key addresses.last := by
  obtain ⟨attached, id, middle, drawn, noAddress⟩ := emit_error refused
  obtain ⟨rfl, refusal⟩ := drawAddress_error noAddress
  obtain ⟨addresses, found, denied⟩ := refusal attached
  obtain ⟨ended, rfl⟩ := AddressAllocator.allocate_eq_error_iff.mp denied
  refine ⟨attached, addresses, ?_, found, Address.next?_eq_none_iff.mp ended, rfl⟩
  rw [← (drawId_ok drawn).addresses, found]

/-- How far the odometer of a kind has gone, once some entries have been emitted. -/
theorem After.remaining_eq {before now : Context} {earlier : List Entry} {kind : Kind}
    (after : After before earlier now) (attached : kind.isNetworkAttached = true) :
    now.remaining kind = before.remaining kind - countOf kind earlier := by
  obtain ⟨last, found⟩ := now.exists_lastAddress? attached
  have reached := after.last kind
  rw [found, eq_comm, Option.bind_eq_some_iff] at reached
  obtain ⟨first, firstFound, reached⟩ := reached
  rw [length_keysOf] at reached
  rw [Context.remaining, Context.remaining, found, firstFound]
  exact Address.remaining_of_successor? reached

/-- What has been emitted found enough addresses. -/
theorem countOf_le_remaining {entries : List Entry} {bares : List Instance}
    {before after : Context} {kind : Kind}
    (emitted : emitAll entries before = .ok bares after)
    (attached : kind.isNetworkAttached = true) :
    (countOf kind entries : Int) ≤ before.remaining kind := by
  have left := ((After.start before).run emitted).remaining_eq attached
  have nonneg := after.remaining_nonneg kind
  rw [List.nil_append] at left
  omega

/-- The first entry for which no address is left stands at this place: the others of its
kind that stand before it take all that remain, and every entry before it has one. -/
structure Context.RunsOutAt (context : Context) (entries : List Entry) (place : Nat)
    (entry : Entry) : Prop where
  entryAt : entries[place]? = some entry
  attached : entry.kind.isNetworkAttached = true
  lacks : context.remaining entry.kind = countOf entry.kind (entries.take place)
  supplied : ∀ earlier other, earlier < place → entries[earlier]? = some other →
    other.kind.isNetworkAttached = true →
      (countOf other.kind (entries.take earlier) : Int) < context.remaining other.kind

/-- A run that fails does so at the first entry for which no address is left. What is
reported is the key of that entry and the state of the allocator that refused it. -/
theorem emitAll_error_runsOutAt {entries : List Entry} {error : Error} {before after : Context}
    (refused : emitAll entries before = .error error after) :
    ∃ place entry addresses, before.RunsOutAt entries place entry ∧
      (before.lastAddress? entry.kind).bind
        (Address.successor? · (countOf entry.kind (entries.take place))) = some addresses.last ∧
      after.addresses? entry.kind = some addresses ∧
      error = .addressesExhausted addresses.kind entry.key addresses.last := by
  obtain ⟨front, entry, back, bares, middle, rfl, emitted, stopped⟩ :=
    emitAll_error_split refused
  have stands := (After.start before).run emitted
  rw [List.nil_append] at stands
  obtain ⟨attached, addresses, found, left, ended, rfl⟩ := Entry.emit_error_ended stopped
  have last : middle.lastAddress? entry.kind = some addresses.last := by
    rw [Context.lastAddress?, found]
    rfl
  refine ⟨front.length, entry, addresses, ⟨?_, attached, ?_, ?_⟩, ?_, left, rfl⟩
  · simp
  · have used := stands.remaining_eq attached
    rw [Context.remaining, last, Option.elim_some, ended] at used
    rw [List.take_left]
    omega
  · intro earlier other inside otherAt otherAttached
    rw [List.getElem?_append_left inside] at otherAt
    rw [List.take_append_of_le_length (Nat.le_of_lt inside)]
    -- The other entry is one of those that have been emitted.
    have fewer := countOf_take_lt otherAt
    have enough := countOf_le_remaining emitted otherAttached
    omega
  · rw [List.take_left, ← last, stands.last, length_keysOf]
    rfl

/-! ### The verdict -/

/-- Entries are emitted exactly when both kinds have addresses enough for them. -/
theorem exists_emitAll_ok_iff {entries : List Entry} {before : Context} :
    (∃ bares after, emitAll entries before = .ok bares after) ↔
      (countOf .vnode entries : Int) ≤ before.remaining .vnode ∧
        (countOf .node entries : Int) ≤ before.remaining .node := by
  constructor
  · rintro ⟨bares, after, emitted⟩
    exact ⟨countOf_le_remaining emitted rfl, countOf_le_remaining emitted rfl⟩
  · rintro ⟨vnodes, nodes⟩
    cases ran : emitAll entries before with
    | ok bares after => exact ⟨bares, after, rfl⟩
    | error error after =>
        obtain ⟨place, entry, addresses, short, -⟩ := emitAll_error_runsOutAt ran
        -- The entry itself needs one address more than there are.
        have lacks := short.lacks
        have fewer := countOf_take_lt short.entryAt
        have attached := short.attached
        cases kindEq : entry.kind with
        | container | pod | service =>
            rw [kindEq] at attached
            cases attached
        | vnode | node =>
            rw [kindEq] at lacks fewer
            omega

/-- An expansion comes to its end exactly when its unfolding can be emitted. -/
theorem exists_expand_ok_iff {store : Store} {context : Context} :
    (∃ expansion, (store.expand context).result = .ok expansion) ↔
      ∃ bares after, emitAll store.unfolding context = .ok bares after := by
  constructor
  · rintro ⟨expansion, finished⟩
    obtain ⟨bares, emitted, -⟩ := expand_ok finished
    exact ⟨bares, _, emitted⟩
  · rintro ⟨bares, after, emitted⟩
    cases ended : (store.expand context).result with
    | ok expansion => exact ⟨expansion, rfl⟩
    | error error =>
        rw [expand_error ended] at emitted
        cases emitted

/-- An expansion comes to its end exactly when both kinds that are attached to the network
have as many addresses left as the store asks for. Otherwise it fails at the first entry
for which none is left, with the kind and key of that entry and the address that the
allocator of its kind issued last, or its seed. -/
theorem expand_verdict (store : Store) {context : Context} (labelled : context.Labelled) :
    ((∃ expansion, (store.expand context).result = .ok expansion) ↔
      (store.demand .vnode : Int) ≤ context.remaining .vnode ∧
        (store.demand .node : Int) ≤ context.remaining .node) ∧
    ∀ error, (store.expand context).result = .error error →
      ∃ place entry last, context.RunsOutAt store.unfolding place entry ∧
        (context.lastAddress? entry.kind).bind
          (Address.successor? · (countOf entry.kind (store.unfolding.take place))) = some last ∧
        (store.expand context).context.lastAddress? entry.kind = some last ∧
        error = .addressesExhausted entry.kind entry.key last := by
  constructor
  · rw [exists_expand_ok_iff, exists_emitAll_ok_iff,
      store.countOf_unfolding (show Kind.isNetworkAttached .vnode = true from rfl),
      store.countOf_unfolding (show Kind.isNetworkAttached .node = true from rfl)]
  · intro error failed
    obtain ⟨place, entry, addresses, short, reached, left, rfl⟩ :=
      emitAll_error_runsOutAt (expand_error failed)
    obtain ⟨log, issues⟩ := expand_error_issues failed
    have kindEq : addresses.kind = entry.kind := issues.labelled labelled _ _ left
    refine ⟨place, entry, addresses.last, short, reached, ?_, by rw [kindEq]⟩
    rw [Context.lastAddress?, left]
    rfl

theorem expand_verdict_twofold :
    let context := Context.fresh .shared ⟨254, 254, 254, 253⟩ ⟨10, 1, 0, 1⟩
    context.Labelled ∧ context.remaining .vnode = 1 ∧ Store.twofold.demand .vnode = 2 ∧
      ∃ place entry last, context.RunsOutAt Store.twofold.unfolding place entry ∧
        (context.lastAddress? entry.kind).bind
          (Address.successor? · (countOf entry.kind (Store.twofold.unfolding.take place))) =
            some last ∧
        (Store.twofold.expand context).context.lastAddress? entry.kind = some last ∧
        (Store.twofold.expand context).result =
          .error (.addressesExhausted entry.kind entry.key last) := by
  intro context
  have labelled : context.Labelled := Context.labelled_fresh _ _ _
  have supply : context.remaining .vnode = 1 := by decide
  have demand : Store.twofold.demand .vnode = 2 := by decide
  obtain ⟨finishes, fails⟩ := expand_verdict Store.twofold labelled
  refine ⟨labelled, supply, demand, ?_⟩
  cases result : (Store.twofold.expand context).result with
  | ok expansion =>
      obtain ⟨vnodes, -⟩ := finishes.mp ⟨expansion, result⟩
      rw [supply, demand] at vnodes
      omega
  | error error =>
      obtain ⟨place, entry, last, short, reached, left, rfl⟩ := fails error result
      exact ⟨place, entry, last, short, reached, left, rfl⟩

end ClusterTopology
