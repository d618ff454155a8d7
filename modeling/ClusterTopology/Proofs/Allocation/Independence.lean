import ClusterTopology.Proofs.Allocation.Calls
import ClusterTopology.Proofs.Allocation.Draw
import ClusterTopology.Proofs.Allocation.Naming

/-!
Calls of all kinds made of one context.

Calls for ids and for addresses, of whatever kinds and in whatever order, are answered by the
allocators of one context. `ids_call` and `addresses_call` say what one call is to one
allocator: a step, if the call is for it, and nothing otherwise. By induction on the calls an
allocator has then made the steps of its own calls, and these only (`ids_callAll`,
`addresses_callAll`). So the answers for a kind are what an allocator by itself would have
answered to the calls for this kind: `callAll_independent`.
-/

namespace ClusterTopology.Context

/-! ### Calls and answers -/

/-- What may be asked of a context, for a kind and a key. -/
inductive Call where
  | id (kind : Kind) (key : String)
  | address (kind : Kind) (key : String)
  deriving DecidableEq, Repr

/-- What came of a call for a kind. -/
inductive Answer where
  | id (kind : Kind) (result : Except Error String)
  | address (kind : Kind) (result : Except Error Address)

/-- Make one call. -/
def call (context : Context) : Call → Answer × Context
  | .id kind key =>
    match drawId kind key context with
    | .ok id after => (.id kind (.ok id), after)
    | .error error after => (.id kind (.error error), after)
  | .address kind key =>
    match drawAddress kind key context with
    | .ok address after => (.address kind (.ok address), after)
    | .error error after => (.address kind (.error error), after)

/-- Make calls in order: the answers, and the context after them. -/
def callAll (context : Context) : List Call → List Answer × Context
  | [] => ([], context)
  | first :: calls =>
    let (answer, middle) := context.call first
    let (answers, after) := callAll middle calls
    (answer :: answers, after)

/-- The key of a call for an id of this kind. -/
def Call.idKey? (kind : Kind) : Call → Option String
  | id other key => if other = kind then some key else none
  | address .. => none

/-- The key of a call for an address of this kind. -/
def Call.addressKey? (kind : Kind) : Call → Option String
  | id .. => none
  | address other key => if other = kind then some key else none

/-- What came of a call for an id of this kind. -/
def Answer.id? (kind : Kind) : Answer → Option (Except Error String)
  | id other result => if other = kind then some result else none
  | address .. => none

/-- What came of a call for an address of this kind. -/
def Answer.address? (kind : Kind) : Answer → Option (Except Error Address)
  | id .. => none
  | address other result => if other = kind then some result else none

/-- The keys of the calls for ids of this kind, in order. -/
def idKeys (kind : Kind) (calls : List Call) : List String := calls.filterMap (Call.idKey? kind)

def addressKeys (kind : Kind) (calls : List Call) : List String :=
  calls.filterMap (Call.addressKey? kind)

/-- What came of the calls for ids of this kind, in order. -/
def idResults (kind : Kind) (answers : List Answer) : List (Except Error String) :=
  answers.filterMap (Answer.id? kind)

def addressResults (kind : Kind) (answers : List Answer) : List (Except Error Address) :=
  answers.filterMap (Answer.address? kind)

section Steps

variable {context : Context} {kind : Kind}

/-! ### One call -/

/-- To the ids of a kind a call for one of them is a step, and any other call is nothing. -/
theorem ids_call {ids : IdAllocator} (found : context.ids? kind = some ids) (call : Call) :
    (∃ key, call.idKey? kind = some key ∧
      (context.call call).1.id? kind = some (.ok (ids.allocate key).1) ∧
      (context.call call).2.ids? kind = some (ids.allocate key).2) ∨
    (call.idKey? kind = none ∧ (context.call call).1.id? kind = none ∧
      (context.call call).2.ids? kind = some ids) := by
  cases call with
  | id other key =>
      rw [Context.call]
      cases drawn : drawId other key context with
      | ok id after =>
          have step := drawId_ok drawn
          by_cases same : other = kind
          · subst same
            obtain ⟨own, here, given, stored⟩ := step.issue
            obtain rfl := Option.some.inj (here.symm.trans found)
            refine Or.inl ⟨key, if_pos rfl, ?_, stored⟩
            rw [Answer.id?, if_pos rfl, given]
          · exact Or.inr ⟨if_neg same, if_neg same, (step.others kind (Ne.symm same)).trans found⟩
      | error error after =>
          obtain ⟨rfl, rfl⟩ := drawId_error drawn
          have differs : Kind.service ≠ kind := by
            rintro rfl
            cases found
          exact Or.inr ⟨if_neg differs, if_neg differs, found⟩
  | address other key =>
      rw [Context.call]
      cases drawn : drawAddress other key context with
      | ok address after => exact Or.inr ⟨rfl, rfl, ((drawAddress_ok drawn).ids kind).trans found⟩
      | error error after =>
          obtain ⟨rfl, -⟩ := drawAddress_error drawn
          exact Or.inr ⟨rfl, rfl, found⟩

theorem isNetworkAttached_of_addresses? {addresses : AddressAllocator}
    (found : context.addresses? kind = some addresses) : kind.isNetworkAttached = true := by
  cases kind with
  | vnode | node => rfl
  | container | pod | service => cases found

/-- To the addresses of a kind a call for one of them is a step, whether it is granted or
not, and any other call is nothing. -/
theorem addresses_call {addresses : AddressAllocator}
    (found : context.addresses? kind = some addresses) (call : Call) :
    (∃ key, call.addressKey? kind = some key ∧
      (context.call call).1.address? kind = some (addresses.call key).1 ∧
      (context.call call).2.addresses? kind = some (addresses.call key).2) ∨
    (call.addressKey? kind = none ∧ (context.call call).1.address? kind = none ∧
      (context.call call).2.addresses? kind = some addresses) := by
  cases call with
  | id other key =>
      rw [Context.call]
      cases drawn : drawId other key context with
      | ok id after => exact Or.inr ⟨rfl, rfl, ((drawId_ok drawn).addresses kind).trans found⟩
      | error error after =>
          obtain ⟨-, rfl⟩ := drawId_error drawn
          exact Or.inr ⟨rfl, rfl, found⟩
  | address other key =>
      rw [Context.call]
      cases drawn : drawAddress other key context with
      | ok address after =>
          have step := drawAddress_ok drawn
          by_cases same : other = kind
          · subst same
            obtain ⟨own, next, here, granted, stored⟩ := step.issue
            obtain rfl := Option.some.inj (here.symm.trans found)
            have called : own.call key = (.ok address, next) := by
              rw [AddressAllocator.call, granted]
            refine Or.inl ⟨key, if_pos rfl, ?_, ?_⟩
            · rw [called]
              exact if_pos rfl
            · rw [called]
              exact stored
          · exact Or.inr ⟨if_neg same, if_neg same, (step.others kind (Ne.symm same)).trans found⟩
      | error error after =>
          obtain ⟨rfl, refusal⟩ := drawAddress_error drawn
          by_cases same : other = kind
          · subst same
            obtain ⟨own, here, refused⟩ := refusal (isNetworkAttached_of_addresses? found)
            obtain rfl := Option.some.inj (here.symm.trans found)
            have called : own.call key = (.error error, own) := by
              rw [AddressAllocator.call, refused]
            refine Or.inl ⟨key, if_pos rfl, ?_, ?_⟩
            · rw [called]
              exact if_pos rfl
            · rw [called]
              exact found
          · exact Or.inr ⟨if_neg same, if_neg same, found⟩

/-! ### Calls in order -/

/-- The ids of a kind make the steps of the calls for them, whatever else is called for. -/
theorem ids_callAll {ids : IdAllocator} (found : context.ids? kind = some ids)
    (calls : List Call) :
    idResults kind (context.callAll calls).1 = (ids.idsFor (idKeys kind calls)).map .ok ∧
      (context.callAll calls).2.ids? kind = some (ids.issueAll (idKeys kind calls)) := by
  induction calls generalizing context ids with
  | nil => exact ⟨rfl, found⟩
  | cons call calls ih =>
      rcases ids_call found call with ⟨key, asked, told, next⟩ | ⟨asked, told, next⟩
      · obtain ⟨results, state⟩ := ih next
        rw [idKeys, List.filterMap_cons_some asked, idResults, callAll,
          List.filterMap_cons_some told]
        exact ⟨congrArg _ results, state⟩
      · obtain ⟨results, state⟩ := ih next
        rw [idKeys, List.filterMap_cons_none asked, idResults, callAll,
          List.filterMap_cons_none told]
        exact ⟨results, state⟩

/-- The addresses of a kind make the steps of the calls for them, whatever else is called
for. -/
theorem addresses_callAll {addresses : AddressAllocator}
    (found : context.addresses? kind = some addresses) (calls : List Call) :
    addressResults kind (context.callAll calls).1 =
        (addresses.callAll (addressKeys kind calls)).1 ∧
      (context.callAll calls).2.addresses? kind =
        some (addresses.callAll (addressKeys kind calls)).2 := by
  induction calls generalizing context addresses with
  | nil => exact ⟨rfl, found⟩
  | cons call calls ih =>
      rcases addresses_call found call with ⟨key, asked, told, next⟩ | ⟨asked, told, next⟩
      · obtain ⟨results, state⟩ := ih next
        rw [addressKeys, List.filterMap_cons_some asked, addressResults, callAll,
          List.filterMap_cons_some told]
        exact ⟨congrArg _ results, state⟩
      · obtain ⟨results, state⟩ := ih next
        rw [addressKeys, List.filterMap_cons_none asked, addressResults, callAll,
          List.filterMap_cons_none told]
        exact ⟨results, state⟩

end Steps

/-! ### A fresh context -/

theorem ids?_fresh (numbering : Numbering) (vnodeSeed nodeSeed : Address) {kind : Kind}
    (expanded : kind ∈ Kind.expanded) :
    (fresh numbering vnodeSeed nodeSeed).ids? kind = some { kind, numbering } := by
  cases kind with
  | container | pod | vnode | node => rfl
  | service => exact absurd expanded (by decide)

/-- Whatever is called for and in whatever order, the ids given for a kind that is expanded
are those that an allocator of ids by itself gives for the keys of the calls for this kind,
and as many are counted; none is counted for services. The addresses given or refused for
vnodes and for nodes are those that an allocator with the seed of the kind gives or refuses
for the keys of the calls for it. In any context, an id for a service and an address for a
kind that is not attached to the network are refused as invalid, and nothing changes. -/
theorem callAll_independent (numbering : Numbering) (vnodeSeed nodeSeed : Address)
    (calls : List Call) :
    let answers := ((fresh numbering vnodeSeed nodeSeed).callAll calls).1
    let now := ((fresh numbering vnodeSeed nodeSeed).callAll calls).2
    let vnodes : AddressAllocator := { kind := .vnode, last := vnodeSeed }
    let nodes : AddressAllocator := { kind := .node, last := nodeSeed }
    (∀ kind ∈ Kind.expanded,
        idResults kind answers =
            (({ kind, numbering } : IdAllocator).idsFor (idKeys kind calls)).map .ok ∧
          now.issued kind = (idKeys kind calls).length) ∧
      now.issued .service = 0 ∧
      addressResults .vnode answers = (vnodes.callAll (addressKeys .vnode calls)).1 ∧
      addressResults .node answers = (nodes.callAll (addressKeys .node calls)).1 ∧
      ∀ (context : Context) (key : String),
        context.call (.id .service key) =
            (.id .service (.error (.invalid "service templates are not expanded")), context) ∧
          ∀ kind : Kind, kind.isNetworkAttached = false →
            context.call (.address kind key) =
              (.address kind
                (.error (.invalid s!"{kind.name} instances are not network attached")),
                context) := by
  intro answers now vnodes nodes
  refine ⟨?_, rfl, ?_, ?_, ?_⟩
  · intro kind expanded
    obtain ⟨results, state⟩ := ids_callAll (ids?_fresh numbering vnodeSeed nodeSeed expanded) calls
    refine ⟨results, ?_⟩
    rw [issued_eq_elim, state, Option.elim_some, IdAllocator.issued_issueAll]
    exact Nat.zero_add _
  · exact (addresses_callAll rfl calls).1
  · exact (addresses_callAll rfl calls).1
  · intro context key
    constructor
    · rfl
    · intro kind detached
      cases kind with
      | vnode | node => cases detached
      | container | pod | service => rfl

/-- Calls of all kinds mixed, among them one that is refused because the addresses of nodes
have run out. -/
theorem callAll_independent_mixed :
    let calls : List Call :=
      [.id .pod "a", .address .node "rack", .id .service "s", .id .container "a",
        .address .pod "a", .address .vnode "v", .address .node "shelf", .id .pod "a"]
    let before := fresh .perKey ⟨10, 1, 254, 254⟩ ⟨254, 254, 254, 253⟩
    let answers := (before.callAll calls).1
    let now := (before.callAll calls).2
    Kind.pod ∈ Kind.expanded ∧
      idResults .pod answers = [.ok "a-1", .ok "a-2"] ∧ now.issued .pod = 2 ∧
      addressResults .vnode answers = [.ok ⟨10, 2, 2, 2⟩] ∧
      addressResults .node answers =
        [.ok ⟨254, 254, 254, 254⟩,
          .error (.addressesExhausted .node "shelf" ⟨254, 254, 254, 254⟩)] ∧
      Kind.pod.isNetworkAttached = false ∧
      now.call (.address .pod "a") =
        (.address .pod (.error (.invalid "pod instances are not network attached")), now) := by
  intro calls before answers now
  have expanded : Kind.pod ∈ Kind.expanded := by decide
  obtain ⟨ids, -, vnodes, nodes, refused⟩ :=
    callAll_independent .perKey ⟨10, 1, 254, 254⟩ ⟨254, 254, 254, 253⟩ calls
  obtain ⟨given, counted⟩ := ids .pod expanded
  exact ⟨expanded, given, counted, vnodes, nodes, rfl, (refused now "a").2 .pod rfl⟩

/-- An id that is asked for a service is not counted. -/
theorem issued_service_of_call :
    let calls : List Call := [.id .service "s"]
    let now := ((fresh .shared ⟨10, 1, 1, 1⟩ ⟨200, 1, 1, 1⟩).callAll calls).2
    (idKeys .service calls).length = 1 ∧ now.issued .service = 0 ∧
      ¬ now.issued .service = (idKeys .service calls).length := by
  intro calls now
  exact ⟨rfl, rfl, Nat.zero_ne_one⟩

end ClusterTopology.Context
