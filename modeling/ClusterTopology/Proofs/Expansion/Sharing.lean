import ClusterTopology.Proofs.Allocation.Consecutive
import ClusterTopology.Proofs.Expansion.Count

/-!
When a vnode and a node share an address.

Addresses are distinct within a kind, and nothing keeps those of vnodes apart from those of
nodes. Whatever a run issues for a kind follows on the seed of the kind
(`Issues.consecutive`), so from seeds in the range of the odometer each kind takes up an
interval of ranks as long as it has instances, and two instances share an address exactly
when the two intervals meet: `shares_expand_iff`.
-/

namespace ClusterTopology

/-! ### The addresses of a kind -/

/-- The address, if one was issued and for this kind. -/
def Issue.addressFor? (kind : Kind) : Issue → Option Address
  | .id .. => none
  | .address other issued => if other = kind then some issued else none

theorem Issue.addressFor?_own (kind : Kind) (issued : Address) :
    addressFor? kind (.address kind issued) = some issued := if_pos rfl

theorem Issue.addressFor?_other {kind other : Kind} (differs : other ≠ kind) (issued : Address) :
    addressFor? kind (.address other issued) = none := if_neg differs

/-- The addresses issued for a kind follow on the last one before. -/
theorem Issues.consecutive {before after : Context} {log : List Issue}
    (issues : Issues before log after) {kind : Kind} {start : Address}
    (last : before.lastAddress? kind = some start) :
    Address.Consecutive start (log.filterMap (Issue.addressFor? kind)) := by
  induction issues generalizing start with
  | none context => exact Address.consecutive_nil start
  | id drawn _ ih =>
      rw [List.filterMap_cons_none rfl]
      exact ih (((drawId_ok drawn).lastAddress kind).trans last)
  | @address other key address _ _ _ _ drawn _ ih =>
      have drawn := drawAddress_ok drawn
      by_cases same : other = kind
      · subst same
        obtain ⟨own, found, step, moved⟩ := drawn.next
        obtain rfl : own = start := Option.some.inj (found.symm.trans last)
        rw [List.filterMap_cons_some (Issue.addressFor?_own other address)]
        exact Address.consecutive_cons_iff.mpr ⟨step, ih moved⟩
      · rw [List.filterMap_cons_none (Issue.addressFor?_other same address)]
        exact ih ((drawn.lastAddress_of_ne (Ne.symm same)).trans last)

namespace Topology

/-- The addresses of the instances of a kind, in order of production. -/
def addresses (topology : Topology) (kind : Kind) : List Address :=
  (topology.ofKind kind).filterMap Instance.address?

theorem addresses_cons (it : Instance) (rest : List Instance) (kind : Kind) :
    (⟨it :: rest⟩ : Topology).addresses kind =
      (if it.kind = kind then it.address?.toList else []) ++ (⟨rest⟩ : Topology).addresses kind := by
  by_cases same : it.kind = kind
  · cases borne : it.address? <;> simp [addresses, ofKind, same, borne]
  · simp [addresses, ofKind, same]

theorem mem_addresses_iff {topology : Topology} {kind : Kind} {address : Address} :
    address ∈ topology.addresses kind ↔
      ∃ it ∈ topology.instances, it.kind = kind ∧ it.address? = some address := by
  simp [addresses, ofKind, List.mem_filterMap, and_assoc]

/-- The addresses of a kind are those that the instances were issued for it. -/
theorem addresses_eq_filterMap_issues (topology : Topology) (kind : Kind) :
    topology.addresses kind =
      (topology.instances.flatMap Instance.issues).filterMap (Issue.addressFor? kind) := by
  obtain ⟨instances⟩ := topology
  induction instances with
  | nil => rfl
  | cons it rest ih =>
      have own : it.issues.filterMap (Issue.addressFor? kind) =
          if it.kind = kind then it.address?.toList else [] := by
        rw [Instance.issues, List.filterMap_cons_none rfl]
        cases it.address? with
        | none => simp
        | some address => by_cases same : it.kind = kind <;> simp [Issue.addressFor?, same]
      rw [addresses_cons, ih, List.flatMap_cons, List.filterMap_append, own]

/-- Every instance of a kind that is attached to the network has an address. -/
theorem length_addresses (topology : Topology) {kind : Kind}
    (attached : kind.isNetworkAttached = true) :
    (topology.addresses kind).length = topology.count kind := by
  obtain ⟨instances⟩ := topology
  induction instances with
  | nil => rfl
  | cons it rest ih =>
      rw [addresses_cons, count_cons, List.length_append, ih, Nat.add_comm]
      congr 1
      split
      · rename_i same
        subst same
        cases it with
        | container | pod => cases attached
        | vnode | node => rfl
      · rfl

/-- Vnodes and nodes have all the addresses there are. -/
theorem addresses_perm (topology : Topology) :
    (topology.instances.filterMap Instance.address?).Perm
      (topology.addresses .vnode ++ topology.addresses .node) := by
  obtain ⟨instances⟩ := topology
  induction instances with
  | nil => exact .nil
  | cons it rest ih =>
      cases it with
      | container it => exact ih
      | pod it => exact ih
      | vnode it => exact ih.cons _
      | node it => exact (ih.cons _).trans List.perm_middle.symm

/-- Some vnode and some node have the same address. -/
def Shares (topology : Topology) : Prop :=
  ∃ vnode node, .vnode vnode ∈ topology.instances ∧ .node node ∈ topology.instances ∧
    vnode.address = node.address

theorem shares_iff {topology : Topology} :
    topology.Shares ↔
      ∃ address, address ∈ topology.addresses .vnode ∧ address ∈ topology.addresses .node := by
  simp only [mem_addresses_iff]
  constructor
  · rintro ⟨vnode, node, vnodeIn, nodeIn, same⟩
    exact ⟨vnode.address, ⟨_, vnodeIn, rfl, rfl⟩, _, nodeIn, rfl, congrArg some same.symm⟩
  · rintro ⟨address, ⟨it, itIn, itKind, itAddress⟩, other, otherIn, otherKind, otherAddress⟩
    cases it with
    | container | pod | node => cases itKind
    | vnode vnode =>
        cases other with
        | container | pod | vnode => cases otherKind
        | node node =>
            have same := itAddress.trans otherAddress.symm
            exact ⟨vnode, node, itIn, otherIn, Option.some.inj same⟩

/-- Where no kind has an address twice, all addresses are distinct unless they are shared. -/
theorem nodup_filterMap_address?_iff {topology : Topology}
    (vnodes : (topology.addresses .vnode).Nodup) (nodes : (topology.addresses .node).Nodup) :
    (topology.instances.filterMap Instance.address?).Nodup ↔ ¬ topology.Shares := by
  rw [shares_iff, topology.addresses_perm.nodup_iff, List.nodup_append]
  constructor
  · rintro ⟨-, -, apart⟩ ⟨address, inside, otherInside⟩
    exact apart address inside address otherInside rfl
  · intro apart
    refine ⟨vnodes, nodes, fun address inside other otherInside same => ?_⟩
    exact apart ⟨address, inside, same ▸ otherInside⟩

end Topology

/-! ### Intervals of ranks -/

/-- Addresses that follow on one regular seed and addresses that follow on another have one in
common exactly when their ranks do. -/
theorem Address.Consecutive.exists_common_iff {start other : Address}
    {addresses others : List Address} (first : Consecutive start addresses)
    (second : Consecutive other others) (regular : start.Regular)
    (otherRegular : other.Regular) :
    (∃ address, address ∈ addresses ∧ address ∈ others) ↔
      max start.rank other.rank <
        min (start.rank + addresses.length) (other.rank + others.length) := by
  constructor
  · rintro ⟨address, inside, otherInside⟩
    have within := first.exists_rank_iff.mp ⟨address, inside, rfl⟩
    have otherWithin := second.exists_rank_iff.mp ⟨address, otherInside, rfl⟩
    omega
  · intro meet
    -- The rank after the greater of the two seeds is in both intervals.
    let wanted := max start.rank other.rank + 1
    obtain ⟨address, inside, rank⟩ : ∃ address ∈ addresses, address.rank = wanted :=
      first.exists_rank_iff.mpr (by omega)
    obtain ⟨again, otherInside, otherRank⟩ : ∃ again ∈ others, again.rank = wanted :=
      second.exists_rank_iff.mpr (by omega)
    obtain rfl : address = again :=
      eq_of_rank_eq (first.regular regular address inside)
        (second.regular otherRegular again otherInside) (rank.trans otherRank.symm)
    exact ⟨address, inside, otherInside⟩

/-- The addresses of a kind in an expansion follow on the last one issued before it. -/
theorem consecutive_addresses {store : Store} {context : Context} {expansion : Expansion}
    (finished : (store.expand context).result = .ok expansion) {kind : Kind} {last : Address}
    (held : context.lastAddress? kind = some last) :
    Address.Consecutive last (expansion.topology.addresses kind) := by
  rw [Topology.addresses_eq_filterMap_issues]
  exact (expand_ok_issues finished).consecutive held

/-- An expansion by fresh allocators with regular seeds gives some vnode and some node the same
address exactly when the intervals of ranks that the two kinds take up meet. Only then is an
address borne twice at all. -/
theorem shares_expand_iff {numbering : Numbering} {vnodeSeed nodeSeed : Address}
    {store : Store} {expansion : Expansion} (vnodeRegular : vnodeSeed.Regular)
    (nodeRegular : nodeSeed.Regular)
    (finished : (store.expand (.fresh numbering vnodeSeed nodeSeed)).result = .ok expansion) :
    (expansion.topology.Shares ↔
      max vnodeSeed.rank nodeSeed.rank <
        min (vnodeSeed.rank + expansion.topology.count .vnode)
          (nodeSeed.rank + expansion.topology.count .node)) ∧
    ((expansion.topology.instances.filterMap Instance.address?).Nodup ↔
      ¬ max vnodeSeed.rank nodeSeed.rank <
        min (vnodeSeed.rank + expansion.topology.count .vnode)
          (nodeSeed.rank + expansion.topology.count .node)) := by
  have vnodes : Address.Consecutive vnodeSeed (expansion.topology.addresses .vnode) :=
    consecutive_addresses finished rfl
  have nodes : Address.Consecutive nodeSeed (expansion.topology.addresses .node) :=
    consecutive_addresses finished rfl
  have meet := vnodes.exists_common_iff nodes vnodeRegular nodeRegular
  rw [← Topology.shares_iff, Topology.length_addresses _ rfl,
    Topology.length_addresses _ rfl] at meet
  have distinct := Topology.nodup_filterMap_address?_iff vnodes.nodup.of_cons nodes.nodup.of_cons
  exact ⟨meet, distinct.trans (not_congr meet)⟩

/-- Two vnodes and two nodes, from seeds that are one apart and from seeds that are far
apart. -/
theorem shares_expand_iff_twofold :
    let vnodeSeed : Address := ⟨10, 2, 2, 2⟩
    let near : Address := ⟨10, 2, 2, 3⟩
    let far : Address := ⟨200, 2, 2, 2⟩
    vnodeSeed.Regular ∧ near.Regular ∧ far.Regular ∧
      (∃ expansion,
        (Store.twofold.expand (.fresh .shared vnodeSeed near)).result = .ok expansion ∧
          expansion.topology.Shares) ∧
      ∃ expansion,
        (Store.twofold.expand (.fresh .perKey vnodeSeed far)).result = .ok expansion ∧
          (expansion.topology.instances.filterMap Instance.address?).Nodup := by
  intro vnodeSeed near far
  have vnodeRegular : vnodeSeed.Regular := by decide
  have nearRegular : near.Regular := by decide
  have farRegular : far.Regular := by decide
  have vnodes : countOf .vnode Store.twofold.unfolding = 2 := by decide
  have nodes : countOf .node Store.twofold.unfolding = 2 := by decide
  refine ⟨vnodeRegular, nearRegular, farRegular, ?_, ?_⟩
  · obtain ⟨expansion, finished⟩ : ∃ expansion,
        (Store.twofold.expand (.fresh .shared vnodeSeed near)).result = .ok expansion :=
      Run.exists_of_isOk (by decide +kernel)
    refine ⟨expansion, finished, (shares_expand_iff vnodeRegular nearRegular finished).1.mpr ?_⟩
    rw [count_eq_countOf finished, count_eq_countOf finished, vnodes, nodes]
    decide
  · obtain ⟨expansion, finished⟩ : ∃ expansion,
        (Store.twofold.expand (.fresh .perKey vnodeSeed far)).result = .ok expansion :=
      Run.exists_of_isOk (by decide +kernel)
    refine ⟨expansion, finished, (shares_expand_iff vnodeRegular farRegular finished).2.mpr ?_⟩
    rw [count_eq_countOf finished, count_eq_countOf finished, vnodes, nodes]
    decide

end ClusterTopology
